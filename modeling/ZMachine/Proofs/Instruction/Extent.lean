import ZMachine.Proofs.Instruction.Scanning

/-!
# The bytes of an instruction

Decoding reads the bytes of the instruction and no others: those from its address to before
`Instruction.extent`, where the next instruction starts.

    decode m a = .ok i  →  i.address = a, i.next = extent m a (as an address)
    decode m a = .ok i  →  the bytes from a to before extent m a encode i
    decode m a = .ok i  →  m and m' agree from a to extent m a  →  decode m' a = .ok i

In a memory of less than 2 ^ 32 bytes decoding is just the inverse of the encoding
(`decode_encodings`).
-/

namespace ZMachine.Instruction

/-- Where the instruction at an address ends; where none starts, the address itself. -/
def extent (m : Memory) (a : UInt32) : Nat :=
  match Scan.instruction m a a.toNat with
  | .ok (_, stop) => stop
  | .error _ => a.toNat

/-- Decoding is scanning from the address to the extent. -/
theorem decode_eq_ok_iff (m : Memory) (a : UInt32) (i : Instruction) :
    decode m a = .ok i ↔ Scan.instruction m a a.toNat = .ok (i, extent m a) := by
  have hrun : decode m a = (Scan.instruction m a a.toNat).map Prod.fst := rfl
  rw [hrun]
  unfold extent
  cases Scan.instruction m a a.toNat with
  | error e => simp [Except.map]
  | ok r => simp [Except.map, Prod.ext_iff]

/-- What is decoded is what is written there. -/
theorem decode_written {m : Memory} {a : UInt32} {i : Instruction} (h : decode m a = .ok i) :
    i.address = a ∧ ∃ bytes, i.Encodes bytes ∧ m.Holds a.toNat bytes ∧
      extent m a = a.toNat + bytes.length := by
  have hscan := (decode_eq_ok_iff m a i).1 h
  obtain ⟨bytes, ⟨rfl, hwritten⟩, hheld, hstop⟩ := (Scan.reads_instruction a m _ _ _).1 hscan
  exact ⟨rfl, bytes, hwritten, hheld, hstop⟩

/-- What is written is decoded. -/
theorem decode_of_written {m : Memory} {i : Instruction} {bytes : List UInt8}
    (h : i.Encodes bytes) (hheld : m.Holds i.address.toNat bytes) :
    decode m i.address = .ok i ∧ extent m i.address = i.address.toNat + bytes.length := by
  have hscan : Scan.instruction m i.address i.address.toNat = _ :=
    (Scan.reads_instruction i.address m _ _ _).2 ⟨bytes, ⟨rfl, h⟩, hheld, rfl⟩
  have hextent : extent m i.address = i.address.toNat + bytes.length := by
    rw [extent, hscan]
  exact ⟨(decode_eq_ok_iff m _ i).2 (hextent ▸ hscan), hextent⟩

theorem decode_places {m : Memory} {a : UInt32} {i : Instruction} (h : decode m a = .ok i) :
    i.address = a ∧ i.next = .ofNat (extent m a) := by
  obtain ⟨rfl, bytes, hwritten, -, hextent⟩ := decode_written h
  exact ⟨rfl, hextent ▸ hwritten.next_eq⟩

theorem decode_extent {m : Memory} {a : UInt32} {i : Instruction} (h : decode m a = .ok i) :
    a.toNat < extent m a ∧ extent m a ≤ m.size := by
  obtain ⟨-, bytes, hwritten, hheld, hextent⟩ := decode_written h
  have hne := hwritten.ne_nil
  have hpos := List.length_pos_iff.2 hne
  have hsize := hheld.le_size hne
  omega

/-- The same bytes are the same instruction. -/
theorem decode_agree {m m' : Memory} {a : UInt32} {i : Instruction} (h : decode m a = .ok i)
    (hm : Memory.Agree m m' a.toNat (extent m a)) :
    decode m' a = .ok i ∧ extent m' a = extent m a := by
  obtain ⟨rfl, bytes, hwritten, hheld, hextent⟩ := decode_written h
  have hheld' := hheld.agree (Nat.le_of_eq hextent.symm) hm
  obtain ⟨hdecode, hextent'⟩ := decode_of_written hwritten hheld'
  exact ⟨hdecode, hextent'.trans hextent.symm⟩

/-- In a memory that 32 bits can address, an instruction says exactly where it ends. -/
theorem next_toNat {m : Memory} (hm : m.size < 2 ^ 32) {a : UInt32} {i : Instruction}
    (h : decode m a = .ok i) : i.next.toNat = extent m a := by
  obtain ⟨-, hsize⟩ := decode_extent h
  rw [(decode_places h).2]
  exact UInt32.toNat_ofNat_of_lt' (Nat.lt_of_le_of_lt hsize hm)

/-- **Decoding is the inverse of the encoding.**  Whatever bytes encode an instruction, it is
decoded where a memory holds them, with the address behind them as the next one; and what is decoded
is encoded by the bytes up to the next address, and by nothing else of the memory. -/
theorem decode_encodings {m : Memory} (hm : m.size < 2 ^ 32) (a : UInt32) :
    (∀ (i : Instruction) (bytes : List UInt8), i.Encodes bytes → i.address = a →
      m.Holds a.toNat bytes → decode m a = .ok i ∧ i.next.toNat = a.toNat + bytes.length) ∧
    ∀ i : Instruction, decode m a = .ok i → i.address = a ∧ a < i.next ∧
      (∃ bytes, i.Encodes bytes ∧ m.Holds a.toNat bytes ∧
        i.next.toNat = a.toNat + bytes.length) ∧
      ∀ m' : Memory, Memory.Agree m m' a.toNat i.next.toNat → decode m' a = .ok i := by
  constructor
  · rintro i bytes hwritten rfl hheld
    obtain ⟨hdecode, hextent⟩ := decode_of_written hwritten hheld
    exact ⟨hdecode, (next_toNat hm hdecode).trans hextent⟩
  · intro i h
    obtain ⟨haddress, bytes, hwritten, hheld, hextent⟩ := decode_written h
    have hnext := next_toNat hm h
    refine ⟨haddress, ?_, ⟨bytes, hwritten, hheld, hnext.trans hextent⟩, fun m' hm' => ?_⟩
    · rw [UInt32.lt_iff_toNat_lt, hnext]
      exact (decode_extent h).1
    · exact (decode_agree h (hnext ▸ hm')).1

/-- A search that stores in a global and branches back when nothing is found, and behind it a print
with two words of text, which its encoding is written out for. -/
theorem decode_encodings_scanTable_print :
    let m := Memory.ofList [0, 0, 0xF7, 0x2B, 0x12, 0x34, 0x01, 0x40, 0x10, 0x3F, 0xF0,
      0xB2, 0x11, 0xAA, 0xC6, 0x34, 0xFF]
    let i : Instruction := ⟨2, 11, .scanTable, [.const 0x1234, .var ⟨1⟩, .var ⟨0x40⟩], some ⟨0x10⟩,
      some ⟨false, .address 0xFFFFFFF9⟩, none⟩
    let p : Instruction := ⟨11, 16, .print, [], none, none, some 12⟩
    m.size < 2 ^ 32 ∧ decode m 2 = .ok i ∧ (2 : UInt32) < i.next ∧
      (∃ bytes, i.Encodes bytes ∧ m.Holds 2 bytes ∧ i.next.toNat = 2 + bytes.length) ∧
      p.Encodes [0xB2, 0x11, 0xAA, 0xC6, 0x34] ∧ m.Holds 11 [0xB2, 0x11, 0xAA, 0xC6, 0x34] ∧
      decode m 11 = .ok p ∧ p.next.toNat = 11 + 5 := by
  intro m i p
  have hm : m.size < 2 ^ 32 := by decide
  have hi : decode m 2 = .ok i := by decide +kernel
  obtain ⟨-, hnext, hbytes, -⟩ := (decode_encodings hm 2).2 i hi
  have htext : IsText [0x11, 0xAA, 0xC6, 0x34] :=
    .more 0x11AA (by decide) (.last 0xC634 (by decide))
  have hopens : Opens .zeroOp 2 [] [0xB2] := .bare (by decide) (by decide)
  have hp : p.Encodes ([0xB2] ++ [] ++ [] ++ [] ++ [0x11, 0xAA, 0xC6, 0x34]) := by
    have hlisted : Opcode.listing .print = ⟨.zeroOp, 2, .text⟩ := rfl
    have hnone {β : Type} {W : Nat → β → List UInt8 → Prop} {pos : Nat} :
        WrittenIf W false pos none [] := ⟨rfl, rfl⟩
    have hinline : WrittenIf (fun start (t : UInt32) bytes => t = .ofNat start ∧ IsText bytes) true
        12 (some 12) [0x11, 0xAA, 0xC6, 0x34] := ⟨rfl, rfl, htext⟩
    exact .mk hopens hlisted .nil hnone hnone hinline
  have hheld : m.Holds 11 [0xB2, 0x11, 0xAA, 0xC6, 0x34] := by
    simp only [m.holds_cons]
    exact ⟨rfl, rfl, rfl, rfl, rfl, m.holds_nil _⟩
  obtain ⟨hdecode, hstop⟩ := (decode_encodings hm 11).1 p _ hp rfl hheld
  exact ⟨hm, hi, hnext, hbytes, hp, hheld, hdecode, hstop⟩

end ZMachine.Instruction
