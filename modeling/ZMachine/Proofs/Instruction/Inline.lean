import ZMachine.Proofs.Execution.Setting
import ZMachine.Proofs.Instruction.Extent

/-!
# Text inside an instruction

The text of a print instruction stands between its operation and the next instruction.  Decoding
passes over it, printing reads it, each in a loop of its own.  The two loops take the same words:

    (ZString.read m t).map Prod.snd = Scan.textEnd m m.size t

So the text ends where the next instruction starts, and where no word is marked as the last one both
fail with the first access that leaves the memory.
-/

namespace ZMachine

/-! ## The two loops -/

namespace ZString

/-- Collecting z-characters takes the words that passing over them takes. -/
theorem readZchars_stop (m : Memory) (fuel pos : Nat) (seen : List Nat) :
    (readZchars m fuel pos seen).map Prod.snd = Scan.textEnd m fuel pos := by
  induction fuel generalizing pos seen with
  | zero => rfl
  | succ fuel ih =>
    rw [readZchars, Scan.textEnd]
    cases m.read16 pos with
    | error e => rfl
    | ok w =>
      show (if isLast w = true then _ else _ : Except OutOfRange (List Nat × Nat)).map Prod.snd =
        if isLast w = true then _ else _
      by_cases hlast : isLast w = true
      · rw [if_pos hlast, if_pos hlast]
        rfl
      · rw [if_neg hlast, if_neg hlast]
        exact ih _ _

theorem read_stop (m : Memory) (address : Nat) :
    (read m address).map Prod.snd = Scan.textEnd m m.size address :=
  readZchars_stop m m.size address []

theorem read_eq_ok_iff (m : Memory) (address stop : Nat) :
    (∃ zs, read m address = .ok (zs, stop)) ↔ Scan.textEnd m m.size address = .ok stop := by
  rw [← read_stop]
  cases read m address with
  | error e => simp [Except.map]
  | ok r => simp [Except.map, Prod.ext_iff]

theorem read_eq_error_iff (m : Memory) (address : Nat) (e : OutOfRange) :
    read m address = .error e ↔ Scan.textEnd m m.size address = .error e := by
  rw [← read_stop]
  cases read m address <;> simp [Except.map]

/-- Decoded text ends where its z-characters do. -/
theorem read_of_decode {m : Memory} {h : Header} {address : Nat} {d : Decoded}
    (hd : decode m h address = .ok d) : ∃ zs, read m address = .ok (zs, d.stop) := by
  unfold decode at hd
  obtain ⟨a, -, hd⟩ := except_bind_eq_ok hd
  obtain ⟨extra, -, hd⟩ := except_bind_eq_ok hd
  obtain ⟨⟨zs, stop⟩, hread, hd⟩ := except_bind_eq_ok hd
  obtain ⟨text, -, hd⟩ := except_bind_eq_ok hd
  obtain rfl := Except.ok.inj hd
  refine ⟨zs, ?_⟩
  cases hr : read m address with
  | error e =>
    rw [hr] at hread
    cases hread
  | ok r =>
    rw [hr] at hread
    exact congrArg Except.ok (Except.ok.inj hread)

end ZString

/-- Printing a z-string answers the end of the decoded text. -/
theorem Context.decode_of_printZString {address stop : Nat} {c c' : Context}
    (h : printZString address c = .ok stop c') : ∃ d,
      ZString.decode c.machine.memory c.machine.header address = .ok d ∧ d.stop = stop := by
  unfold printZString at h
  obtain ⟨d, c₁, hd, h⟩ := bind_eq_ok h
  obtain ⟨u, c₂, -, h⟩ := bind_eq_ok h
  cases h
  unfold ask at hd
  rw [onMachine_run] at hd
  cases hask : Machine.ask (fun m h => ZString.decode m h address) c.machine with
  | error e s =>
    rw [hask] at hd
    cases hd
  | ok a s =>
    rw [hask] at hd
    cases hd
    exact ⟨d, (Machine.ask_eq_ok hask).1, rfl⟩

/-! ## Where no word is the last one -/

namespace Scan

/-- A text without a last word does not end in the memory. -/
theorem textEnd_of_unmarked {m : Memory} {pos : Nat}
    (h : ∀ k w, m.read16 (pos + 2 * k) = .ok w → w < 0x8000) (fuel : Nat) :
    ∃ e, textEnd m fuel pos = .error e := by
  induction fuel generalizing pos with
  | zero => exact ⟨_, rfl⟩
  | succ fuel ih =>
    cases hr : m.read16 pos with
    | error e => exact ⟨e, by rw [textEnd, hr]; rfl⟩
    | ok w =>
      have hw : w < 0x8000 := h 0 w hr
      rw [textEnd_step m fuel pos hr, if_neg (UInt16.not_le.2 hw)]
      refine ih fun k v hv => h (k + 1) v ?_
      rwa [show pos + 2 * (k + 1) = pos + 2 + 2 * k by omega]

/-- An instruction that prints its own text is one byte, and then the text. -/
theorem instruction_inline {m : Memory} {a : UInt32} {first : UInt8}
    (hfirst : m.read8 a.toNat = .ok first) (hprint : first = 0xB2 ∨ first = 0xB3) {e : OutOfRange}
    (he : textEnd m m.size (a.toNat + 1) = .error e) :
    instruction m a a.toNat = .error (.outOfRange e) := by
  have htext : text m (a.toNat + 1) = .error (.outOfRange e) := by
    unfold text
    rw [he]
  have hopening : opening m a.toNat = .ok (⟨first, .zeroOp, first &&& 0x0F, []⟩, a.toNat + 1) := by
    unfold opening
    rw [byte_bind hfirst]
    obtain rfl | rfl := hprint <;> rfl
  obtain ⟨opcode, hopcode, hstores, hbranches, hhasText⟩ : ∃ opcode : Opcode,
      Opcode.lookup .zeroOp (first &&& 0x0F) = some opcode ∧ opcode.stores = false ∧
        opcode.branches = false ∧ opcode.hasText = true := by
    obtain rfl | rfl := hprint
    · exact ⟨.print, rfl, rfl, rfl, rfl⟩
    · exact ⟨.printRet, rfl, rfl, rfl, rfl⟩
  have habsent {α : Type} (x : Scan α) : optional false x = pure none := rfl
  have hpresent : optional true (text m) (a.toNat + 1) = .error (.outOfRange e) := by
    show (text m >>= fun t => pure (some t)) (a.toNat + 1) = _
    rw [bind_run, htext]
  unfold instruction
  rw [bind_run, hopening]
  dsimp only
  rw [List.mapM_nil, pure_bind, hopcode]
  dsimp only
  rw [hstores, hbranches, hhasText, habsent, pure_bind, habsent, pure_bind, bind_run, hpresent]

end Scan

/-- An operation with a text has no operands. -/
theorem Opcode.cls_of_text {op : Opcode} {cls : OpClass} {number : UInt8}
    (h : op.listing = ⟨cls, number, .text⟩) : cls = .zeroOp := by
  obtain rfl | rfl := sequel_eq_text_iff.1 (congrArg Listing.sequel h)
  · cases h
    rfl
  · cases h
    rfl

namespace Instruction

variable {m : Memory} {a : UInt32} {i : Instruction}

/-- The address behind the first byte of an instruction has 32 bits, if the memory goes on there.  It
has unless the instruction is at the last address of 32 bits. -/
def Addressed (m : Memory) (a : UInt32) : Prop :=
  a.toNat + 1 < 2 ^ 32 ∨ m.size ≤ 2 ^ 32

/-- The text of a print instruction follows its one byte, and the text is all that follows. -/
theorem text_of_decode (haddressed : Addressed m a) (h : decode m a = .ok i)
    (hprint : i.opcode = .print ∨ i.opcode = .printRet) : ∃ t, i.text = some t ∧ t.toNat = a.toNat + 1 ∧
      Scan.textEnd m m.size t.toNat = .ok (extent m a) := by
  have hscan := (decode_eq_ok_iff m a i).1 h
  obtain ⟨bytes, ⟨-, hwritten⟩, hheld, hextent⟩ := (Scan.reads_instruction a m _ _ _).1 hscan
  cases hwritten with
  | @mk cls number kinds address opcode sequel operands store branch text head body result jump
      inline hopens hlisted hoperands hstore hbranch htext =>
    obtain rfl : sequel = .text := by
      have hsequel := congrArg Listing.sequel hlisted
      rw [Opcode.sequel_eq_text_iff.2 hprint] at hsequel
      exact hsequel.symm
    obtain rfl := Opcode.cls_of_text hlisted
    cases hopens
    cases hoperands
    cases store with
    | some v => cases hstore.1
    | none =>
    cases branch with
    | some b => cases hbranch.1
    | none =>
    cases text with
    | none => cases htext.1
    | some t =>
      obtain ⟨-, rfl⟩ := hstore
      obtain ⟨-, rfl⟩ := hbranch
      obtain ⟨-, rfl, htext⟩ := htext
      simp only [List.length_singleton, List.length_nil, Nat.add_zero, List.append_nil,
        List.length_append, ← Nat.add_assoc, Memory.holds_append] at hheld hextent ⊢
      have hinline := hheld.2
      have hsize := hinline.le_size htext.ne_nil
      have hpos := List.length_pos_iff.2 htext.ne_nil
      have ht : (UInt32.ofNat (a.toNat + 1)).toNat = a.toNat + 1 :=
        UInt32.toNat_ofNat_of_lt' (show _ < 2 ^ 32 by rcases haddressed with h | h <;> omega)
      refine ⟨_, rfl, ht, ?_⟩
      rw [ht]
      exact (Scan.textEnd_eq_ok_iff m _ _ _).2 ⟨inline, htext, hinline, hextent, by omega⟩

/-- **Decoding and printing agree where a text ends.**  The text of a print instruction that is
decoded is read from the address it has up to the next instruction; and where no word behind the
operation is marked as the last one before the memory ends, decoding and reading fail alike. -/
theorem inline_text_agrees (m : Memory) (a : UInt32) :
    (∀ i, decode m a = .ok i → i.opcode = .print ∨ i.opcode = .printRet → Addressed m a →
      ∃ t zs stop, i.text = some t ∧ t.toNat = a.toNat + 1 ∧
        ZString.read m t.toNat = .ok (zs, stop) ∧ i.next = .ofNat stop ∧ stop ≤ m.size ∧
        (∀ h d, ZString.decode m h t.toNat = .ok d → d.stop = stop) ∧
        ∀ c c' s, c.machine.memory = m → Context.printZString t.toNat c = .ok s c' → s = stop) ∧
    ∀ first, m.read8 a.toNat = .ok first → first = 0xB2 ∨ first = 0xB3 →
      (∀ k w, m.read16 (a.toNat + 1 + 2 * k) = .ok w → w < 0x8000) →
      ∃ e, decode m a = .error (.outOfRange e) ∧ ZString.read m (a.toNat + 1) = .error e ∧
        ∀ h d, ZString.decode m h (a.toNat + 1) ≠ .ok d := by
  constructor
  · intro i hdecode hprint haddressed
    obtain ⟨t, ht, hplace, hend⟩ := text_of_decode haddressed hdecode hprint
    obtain ⟨zs, hread⟩ := (ZString.read_eq_ok_iff m t.toNat _).2 hend
    have hstops (h : Header) (d : ZString.Decoded) (hd : ZString.decode m h t.toNat = .ok d) :
        d.stop = extent m a := by
      obtain ⟨zs', hread'⟩ := ZString.read_of_decode hd
      exact congrArg Prod.snd (Except.ok.inj (hread'.symm.trans hread))
    refine ⟨t, zs, extent m a, ht, hplace, hread, (decode_places hdecode).2,
      (decode_extent hdecode).2, hstops, ?_⟩
    rintro c c' s rfl hprinted
    obtain ⟨d, hd, rfl⟩ := Context.decode_of_printZString hprinted
    exact hstops _ d hd
  · intro first hfirst hprint hunmarked
    obtain ⟨e, he⟩ := Scan.textEnd_of_unmarked hunmarked m.size
    have hread := (ZString.read_eq_error_iff m (a.toNat + 1) e).2 he
    have hscan := Scan.instruction_inline hfirst hprint he
    refine ⟨e, ?_, hread, fun h d hd => ?_⟩
    · have hrun : decode m a = (Scan.instruction m a a.toNat).map Prod.fst := rfl
      rw [hrun, hscan]
      rfl
    · obtain ⟨zs, hread'⟩ := ZString.read_of_decode hd
      rw [hread] at hread'
      cases hread'

/-- Two words of text between a print and a print that returns, which has no end. -/
theorem inline_text_agrees_twoWords :
    let m := Memory.ofList [0xB2, 0x11, 0xAA, 0xC6, 0x34, 0xB3, 0x00, 0x05, 0x01]
    let i : Instruction := ⟨0, 5, .print, [], none, none, some 1⟩
    Addressed m 0 ∧ decode m 0 = .ok i ∧
      (∃ zs, ZString.read m 1 = .ok (zs, 5)) ∧
      m.read8 5 = .ok 0xB3 ∧ (∀ k w, m.read16 (6 + 2 * k) = .ok w → w < 0x8000) ∧
      ∃ e, decode m 5 = .error (.outOfRange e) ∧ ZString.read m 6 = .error e := by
  intro m i
  have haddressed : Addressed m 0 := .inl (by decide)
  have hi : decode m 0 = .ok i := by decide +kernel
  have hfirst : m.read8 5 = .ok 0xB3 := rfl
  have hunmarked : ∀ k w, m.read16 (6 + 2 * k) = .ok w → w < 0x8000 := by
    intro k w hw
    have hin : 6 + 2 * k + 1 < 9 := Memory.lt_size_of_read16 hw
    obtain rfl : k = 0 := by omega
    cases hw
    decide
  obtain ⟨t, zs, stop, ht, -, hread, hnext, hstop, -⟩ :=
    (inline_text_agrees m 0).1 i hi (.inl rfl) haddressed
  obtain ⟨e, hfails, hunread, -⟩ := (inline_text_agrees m 5).2 0xB3 hfirst (.inr rfl) hunmarked
  obtain rfl : (1 : UInt32) = t := Option.some.inj ht
  have hstop9 : stop ≤ 9 := hstop
  obtain rfl : stop = 5 := by
    have h5 := congrArg UInt32.toNat hnext
    rw [UInt32.toNat_ofNat_of_lt' (show stop < 2 ^ 32 by omega)] at h5
    exact h5.symm
  exact ⟨haddressed, hi, ⟨zs, hread⟩, hfirst, hunmarked, e, hfails, hunread⟩

end Instruction
end ZMachine
