import ZMachine.Instruction.Decode
import ZMachine.Proofs.Instruction.Listing
import ZMachine.Proofs.Memory

/-!
# The encoding of instructions

How an instruction is written, said from the side of the one who writes it.  An instruction is its
opening, its operands and then, as its operation asks for them, the variable its result goes to, the
branch and the text:

    opening        long       [kinds and number]            two operands, none of them a word
                   short      [kind and number]             one operand, or none
                   variable   [class and number, kinds]     up to four operands
                   double     [number, kinds, kinds]        the long calls, up to eight operands
                   extended   [0xBE, number, kinds]         up to four operands
    branch         short      [polarity, six bits]          offsets 0 to 63
                   long       [polarity and high, low]      fourteen bits in two's complement
    text           words, bit 15 set in the last one and in no other

The same instruction can have several encodings.  The relations of this module say which bytes are
one; the lemmas behind them say how the fields are told from a byte.
-/

namespace ZMachine

variable {α : Type}

/-! ## Openings -/

namespace OperandKind

/-- The two bits of a slot: a kind, or that the operand is omitted. -/
def bits : Option OperandKind → UInt8
  | some .large => 0
  | some .small => 1
  | some .variable => 2
  | none => 3

/-- The byte of four slots. -/
def byte (a b c d : Option OperandKind) : UInt8 :=
  64 * bits a + 16 * bits b + 4 * bits c + bits d

/-- What an operand of a long form adds to the first byte. -/
def longBit (bit : UInt8) : OperandKind → UInt8
  | .variable => bit
  | _ => 0

/-- The kinds that stand in these slots: those before the first omitted operand.  What stands behind
it does not count. -/
inductive Lists : List (Option OperandKind) → List OperandKind → Prop
  | all (kinds : List OperandKind) : Lists (kinds.map some) kinds
  | upTo (kinds : List OperandKind) (rest : List (Option OperandKind)) :
      Lists (kinds.map some ++ none :: rest) kinds

end OperandKind

/-- How an operation of a class is opened, with operands of these kinds. -/
inductive Opens : OpClass → UInt8 → List OperandKind → List UInt8 → Prop
  /-- A bit for each of two operands. -/
  | long {number : UInt8} {first second : OperandKind} (hnumber : number < 32)
      (hfirst : first ≠ .large) (hsecond : second ≠ .large) :
      Opens .twoOp number [first, second] [first.longBit 0x40 + second.longBit 0x20 + number]
  /-- The kind of the one operand. -/
  | short {number : UInt8} (kind : OperandKind) (hnumber : number < 16) :
      Opens .oneOp number [kind] [0x80 + 0x10 * OperandKind.bits (some kind) + number]
  /-- No operand; the byte that number 14 would have opens the extended form. -/
  | bare {number : UInt8} (hnumber : number < 16) (hextended : number ≠ 14) :
      Opens .zeroOp number [] [0xB0 + number]
  /-- An operation of two operands, with a byte of kinds and so any number of operands. -/
  | variableTwo {number : UInt8} {a b c d : Option OperandKind} {kinds : List OperandKind}
      (hnumber : number < 32) (hkinds : OperandKind.Lists [a, b, c, d] kinds) :
      Opens .twoOp number kinds [0xC0 + number, OperandKind.byte a b c d]
  /-- An operation of any number of operands, but for the long calls. -/
  | variableAny {number : UInt8} {a b c d : Option OperandKind} {kinds : List OperandKind}
      (hnumber : number < 32) (hshort : number ≠ 12 ∧ number ≠ 26)
      (hkinds : OperandKind.Lists [a, b, c, d] kinds) :
      Opens .varOp number kinds [0xE0 + number, OperandKind.byte a b c d]
  /-- A long call, with two bytes of kinds. -/
  | double {number : UInt8} {a b c d e f g h : Option OperandKind} {kinds : List OperandKind}
      (hlong : number = 12 ∨ number = 26)
      (hkinds : OperandKind.Lists [a, b, c, d, e, f, g, h] kinds) :
      Opens .varOp number kinds
        [0xE0 + number, OperandKind.byte a b c d, OperandKind.byte e f g h]
  /-- An operation of the extended set. -/
  | extended {number : UInt8} {a b c d : Option OperandKind} {kinds : List OperandKind}
      (hkinds : OperandKind.Lists [a, b, c, d] kinds) :
      Opens .extOp number kinds [0xBE, number, OperandKind.byte a b c d]

/-! ## Operands, branches and texts -/

/-- How an operand of a kind is written. -/
inductive Operand.Written : OperandKind → Operand → List UInt8 → Prop
  | large (w : UInt16) : Written .large (.const w) (wordBytes w)
  | small (b : UInt8) : Written .small (.const b.toUInt16) [b]
  | variable (b : UInt8) : Written .variable (.var ⟨b⟩) [b]

/-- How operands of these kinds are written, one behind the other. -/
inductive Operand.AllWritten : List OperandKind → List Operand → List UInt8 → Prop
  | nil : AllWritten [] [] []
  | cons {kind : OperandKind} {kinds : List OperandKind} {o : Operand} {os : List Operand}
      {front back : List UInt8} (hfront : Written kind o front)
      (hback : AllWritten kinds os back) : AllWritten (kind :: kinds) (o :: os) (front ++ back)

/-- What is written if it is present, and nothing else. -/
def WrittenIf (W : Nat → α → List UInt8 → Prop) (present : Bool) (pos : Nat) :
    Option α → List UInt8 → Prop
  | some a, bytes => present = true ∧ W pos a bytes
  | none, bytes => present = false ∧ bytes = []

/-- Where a branch with an offset goes; `after` is the position behind it.  Offsets 0 and 1 return
from the routine. -/
def BranchTarget.Meets (after : Nat) (offset : Int) : BranchTarget → Prop
  | .returnFalse => offset = 0
  | .returnTrue => offset = 1
  | .address target =>
    offset ≠ 0 ∧ offset ≠ 1 ∧ (target.toNat : Int) = (after + offset - 2) % 2 ^ 32

/-- The bit of the first byte of a branch that is taken when the condition holds. -/
def Branch.polarity (onTrue : Bool) : UInt8 :=
  if onTrue then 0x80 else 0

/-- How a branch is written at a position. -/
inductive Branch.Written (pos : Nat) : Branch → List UInt8 → Prop
  | short (onTrue : Bool) {offset : UInt8} {target : BranchTarget} (hoffset : offset < 0x40)
      (htarget : target.Meets (pos + 1) offset.toNat) :
      Written pos ⟨onTrue, target⟩ [polarity onTrue + 0x40 + offset]
  | long (onTrue : Bool) {high low : UInt8} {offset : Int} {target : BranchTarget}
      (hhigh : high < 0x40)
      (hoffset : -0x2000 ≤ offset ∧ offset < 0x2000 ∧
        (high.toNat * 256 + low.toNat : Nat) = offset % 0x4000)
      (htarget : target.Meets (pos + 2) offset) :
      Written pos ⟨onTrue, target⟩ [polarity onTrue + high, low]

/-- The words of a text: bit 15 is set in the last one and in no other. -/
inductive IsText : List UInt8 → Prop
  | last (w : UInt16) (hw : 0x8000 ≤ w) : IsText (wordBytes w)
  | more (w : UInt16) (hw : w < 0x8000) {rest : List UInt8} (hrest : IsText rest) :
      IsText (wordBytes w ++ rest)

/-! ## Instructions -/

/-- How an instruction is written at a position: the opening with the class and the number its
operation is listed with, the operands, then the variable its result goes to, the branch and the
text, as the operation has them. -/
inductive Instruction.Written (pos : Nat) : Instruction → List UInt8 → Prop
  | mk {cls : OpClass} {number : UInt8} {kinds : List OperandKind} {address : UInt32}
      {opcode : Opcode} {sequel : Sequel} {operands : List Operand} {store : Option Variable}
      {branch : Option Branch} {text : Option UInt32} {head body result jump inline : List UInt8}
      (hopens : Opens cls number kinds head)
      (hlisted : opcode.listing = ⟨cls, number, sequel⟩)
      (hoperands : Operand.AllWritten kinds operands body)
      (hstore : WrittenIf (fun _ v bytes => bytes = [v.number]) sequel.hasResult
        (pos + head.length + body.length) store result)
      (hbranch : WrittenIf Branch.Written sequel.hasBranch
        (pos + head.length + body.length + result.length) branch jump)
      (htext : WrittenIf (fun start address bytes => address = .ofNat start ∧ IsText bytes)
        sequel.hasText (pos + head.length + body.length + result.length + jump.length) text
        inline) :
      Written pos
        ⟨address, .ofNat (pos + (head ++ body ++ result ++ jump ++ inline).length), opcode,
          operands, store, branch, text⟩
        (head ++ body ++ result ++ jump ++ inline)

/-- The bytes are an encoding of the instruction, at the address it has. -/
def Instruction.Encodes (i : Instruction) (bytes : List UInt8) : Prop :=
  Written i.address.toNat i bytes

/-! ## The kinds of operands in a byte -/

namespace OperandKind

theorem bits_toNat_lt (slot : Option OperandKind) : (bits slot).toNat < 4 := by
  rcases slot with _ | _ | _ | _ <;> decide

theorem ofBits_eq_iff (n : Nat) (slot : Option OperandKind) :
    ofBits n = slot ↔ (bits slot).toNat = n % 4 := by
  have hn : n % 4 < 4 := Nat.mod_lt n (by decide)
  unfold ofBits
  generalize n % 4 = k at hn ⊢
  revert slot
  match k, hn with
  | 0, _ | 1, _ | 2, _ | 3, _ =>
    intro slot
    rcases slot with _ | _ | _ | _ <;> decide

theorem toNat_byte (a b c d : Option OperandKind) : (byte a b c d).toNat =
    64 * (bits a).toNat + 16 * (bits b).toNat + 4 * (bits c).toNat + (bits d).toNat := by
  have := bits_toNat_lt a
  have := bits_toNat_lt b
  have := bits_toNat_lt c
  have := bits_toNat_lt d
  simp only [byte, UInt8.toNat_add, UInt8.toNat_mul, UInt8.reduceToNat]
  omega

/-- The four slots of a byte are those it was put together from. -/
theorem ofByte_eq_iff (n : UInt8) (a b c d : Option OperandKind) :
    ofByte n = [a, b, c, d] ↔ n = byte a b c d := by
  have := bits_toNat_lt a
  have := bits_toNat_lt b
  have := bits_toNat_lt c
  have := bits_toNat_lt d
  have hn := n.toNat_lt
  simp only [ofByte, List.cons.injEq, and_true, ofBits_eq_iff, ← UInt8.toNat_inj, toNat_byte]
  omega

theorem Lists.cons {slots : List (Option OperandKind)} {kinds : List OperandKind}
    (kind : OperandKind) (h : Lists slots kinds) : Lists (some kind :: slots) (kind :: kinds) := by
  cases h with
  | all => exact .all (kind :: kinds)
  | upTo _ rest => exact .upTo (kind :: kinds) rest

theorem present_eq_iff (slots : List (Option OperandKind)) (kinds : List OperandKind) :
    present slots = kinds ↔ Lists slots kinds := by
  constructor
  · rintro rfl
    induction slots with
    | nil => exact .all []
    | cons slot rest ih =>
      cases slot with
      | none => exact .upTo [] rest
      | some kind => exact ih.cons kind
  · intro h
    cases h with
    | all => induction kinds <;> simp_all [present]
    | upTo rest => induction kinds <;> simp_all [present]

/-- The kinds in a byte of kinds. -/
theorem ofBytes_single (n : UInt8) : ∃ a b c d, n = byte a b c d ∧
    Lists [a, b, c, d] (ofBytes [n]) := by
  refine ⟨_, _, _, _, (ofByte_eq_iff n _ _ _ _).1 rfl, (present_eq_iff _ _).1 ?_⟩
  rfl

/-- The kinds in two bytes of kinds. -/
theorem ofBytes_pair (n n' : UInt8) : ∃ a b c d e f g h, n = byte a b c d ∧ n' = byte e f g h ∧
    Lists [a, b, c, d, e, f, g, h] (ofBytes [n, n']) := by
  refine ⟨_, _, _, _, _, _, _, _, (ofByte_eq_iff n _ _ _ _).1 rfl, (ofByte_eq_iff n' _ _ _ _).1 rfl,
    (present_eq_iff _ _).1 ?_⟩
  rfl

theorem ofBytes_byte {a b c d : Option OperandKind} {kinds : List OperandKind}
    (h : Lists [a, b, c, d] kinds) : ofBytes [byte a b c d] = kinds := by
  rw [ofBytes, List.flatMap_singleton, (ofByte_eq_iff _ a b c d).2 rfl]
  exact (present_eq_iff _ _).2 h

theorem ofBytes_byte_byte {a b c d e f g k : Option OperandKind} {kinds : List OperandKind}
    (h : Lists [a, b, c, d, e, f, g, k] kinds) :
    ofBytes [byte a b c d, byte e f g k] = kinds := by
  rw [ofBytes, List.flatMap_cons, List.flatMap_singleton, (ofByte_eq_iff _ a b c d).2 rfl,
    (ofByte_eq_iff _ e f g k).2 rfl]
  exact (present_eq_iff _ _).2 h

end OperandKind

/-! ## First bytes -/

/-- A fact about all bytes can be checked byte by byte. -/
theorem forall_byte {P : UInt8 → Prop} (h : ∀ n, n < 256 → P (UInt8.ofNat n)) (b : UInt8) : P b :=
  UInt8.ofNat_toNat (x := b) ▸ h b.toNat b.toNat_lt

namespace Opens

open OperandKind

/-- A first byte is made of its fields, which are told by the range it is in. -/
theorem fields_of_byte (b : UInt8) :
    (b < 0x80 → b &&& 0x1F < 32 ∧
      (ofLongBit (b &&& 0x40 != 0)).longBit 0x40 + (ofLongBit (b &&& 0x20 != 0)).longBit 0x20 +
        (b &&& 0x1F) = b) ∧
    (¬b < 0x80 → b < 0xC0 → b &&& 0x0F < 16 ∧
      0x80 + 0x10 * bits (ofBits (b.toNat / 16)) + (b &&& 0x0F) = b) ∧
    (¬b < 0xC0 → b &&& 0x1F < 32 ∧
      b = if b &&& 0x20 = 0 then 0xC0 + (b &&& 0x1F) else 0xE0 + (b &&& 0x1F)) := by
  revert b
  exact forall_byte (by decide +kernel)

theorem of_long (b : UInt8) (hb : b < 0x80) :
    Opens .twoOp (b &&& 0x1F) [ofLongBit (b &&& 0x40 != 0), ofLongBit (b &&& 0x20 != 0)] [b] := by
  have hkind : ∀ v, ofLongBit v ≠ .large := by decide
  obtain ⟨hnumber, hbyte⟩ := (fields_of_byte b).1 hb
  have hlong := Opens.long hnumber (hkind (b &&& 0x40 != 0)) (hkind (b &&& 0x20 != 0))
  rwa [hbyte] at hlong

theorem of_short {b : UInt8} {kind : OperandKind} (hlow : ¬b < 0x80) (hhigh : b < 0xC0)
    (hkind : ofBits (b.toNat / 16) = some kind) : Opens .oneOp (b &&& 0x0F) [kind] [b] := by
  obtain ⟨hnumber, hbyte⟩ := (fields_of_byte b).2.1 hlow hhigh
  have hshort := Opens.short kind hnumber
  rwa [← hkind, hbyte] at hshort

theorem of_bare {b : UInt8} (hextended : b ≠ 0xBE) (hlow : ¬b < 0x80) (hhigh : b < 0xC0)
    (hkind : ofBits (b.toNat / 16) = none) : Opens .zeroOp (b &&& 0x0F) [] [b] := by
  obtain ⟨hnumber, hbyte⟩ := (fields_of_byte b).2.1 hlow hhigh
  rw [hkind] at hbyte
  have hother : b &&& 0x0F ≠ 14 := by
    intro h14
    rw [h14] at hbyte
    exact hextended hbyte.symm
  have hbare := Opens.bare hnumber hother
  rwa [show (0xB0 : UInt8) = 0x80 + 0x10 * bits none from rfl, hbyte] at hbare

theorem variable_byte {b : UInt8} (hhigh : ¬b < 0xC0) : b &&& 0x1F < 32 ∧
    b = if b &&& 0x20 = 0 then 0xC0 + (b &&& 0x1F) else 0xE0 + (b &&& 0x1F) :=
  (fields_of_byte b).2.2 hhigh

/-- The class that bit 5 of a variable form tells. -/
theorem of_variable {b kinds : UInt8} (hhigh : ¬b < 0xC0)
    (hlong : Scan.hasLongKinds (if b &&& 0x20 = 0 then .twoOp else .varOp) (b &&& 0x1F) = false) :
    Opens (if b &&& 0x20 = 0 then .twoOp else .varOp) (b &&& 0x1F) (ofBytes [kinds])
      [b, kinds] := by
  obtain ⟨hnumber, hbyte⟩ := variable_byte hhigh
  obtain ⟨k₁, k₂, k₃, k₄, rfl, hlists⟩ := ofBytes_single kinds
  by_cases htwo : b &&& 0x20 = 0
  · rw [if_pos htwo] at hbyte ⊢
    have hopens := Opens.variableTwo hnumber hlists
    rwa [← hbyte] at hopens
  · rw [if_neg htwo] at hbyte hlong ⊢
    have hopens := Opens.variableAny hnumber (by simpa [Scan.hasLongKinds] using hlong) hlists
    rwa [← hbyte] at hopens

theorem of_double {b kinds more : UInt8} (hhigh : ¬b < 0xC0)
    (hlong : Scan.hasLongKinds (if b &&& 0x20 = 0 then .twoOp else .varOp) (b &&& 0x1F) = true) :
    Opens (if b &&& 0x20 = 0 then .twoOp else .varOp) (b &&& 0x1F) (ofBytes [kinds, more])
      [b, kinds, more] := by
  obtain ⟨-, hbyte⟩ := variable_byte hhigh
  obtain ⟨k₁, k₂, k₃, k₄, k₅, k₆, k₇, k₈, rfl, rfl, hlists⟩ := ofBytes_pair kinds more
  by_cases htwo : b &&& 0x20 = 0
  · rw [if_pos htwo] at hlong
    cases hlong
  · rw [if_neg htwo] at hbyte hlong ⊢
    have hopens := Opens.double (by simpa [Scan.hasLongKinds] using hlong) hlists
    rwa [← hbyte] at hopens

/-! What is told from the first byte of each form. -/

/-- The fields that a first byte is made of are told from it again. -/
theorem byte_of_fields (number : UInt8) :
    (number < 32 → ∀ first ∈ [OperandKind.small, .variable],
      ∀ second ∈ [OperandKind.small, .variable],
        let b := first.longBit 0x40 + second.longBit 0x20 + number
        b < 0x80 ∧ b &&& 0x1F = number ∧
          ofLongBit (b &&& 0x40 != 0) = first ∧ ofLongBit (b &&& 0x20 != 0) = second) ∧
    (number < 16 → ∀ kind ∈ [some OperandKind.large, some .small, some .variable, none],
      let b := 0x80 + 0x10 * bits kind + number
      ¬b < 0x80 ∧ b < 0xC0 ∧ (b < 0xB0 ↔ kind.isSome) ∧ b &&& 0x0F = number ∧
        ofBits (b.toNat / 16) = kind) ∧
    (number < 32 → ∀ two : Bool,
      let b := (if two then 0xC0 else 0xE0) + number
      ¬b < 0xC0 ∧ b &&& 0x1F = number ∧ (b &&& 0x20 = 0 ↔ two)) := by
  refine ⟨?_, ?_, ?_⟩ <;> revert number <;> exact forall_byte (by decide +kernel)

theorem long_byte {number : UInt8} {first second : OperandKind} (hnumber : number < 32)
    (hone : first ≠ .large) (htwo : second ≠ .large) {b : UInt8}
    (hb : b = first.longBit 0x40 + second.longBit 0x20 + number) : b < 0x80 ∧ b &&& 0x1F = number ∧
      ofLongBit (b &&& 0x40 != 0) = first ∧ ofLongBit (b &&& 0x20 != 0) = second := by
  have hsmall : ∀ kind : OperandKind, kind ≠ .large → kind ∈ [OperandKind.small, .variable] := by
    intro kind h
    cases kind <;> simp at h ⊢
  exact hb ▸ (byte_of_fields number).1 hnumber first (hsmall first hone) second (hsmall second htwo)

theorem short_byte {number : UInt8} {kind : OperandKind} (hnumber : number < 16) {b : UInt8}
    (hb : b = 0x80 + 0x10 * bits (some kind) + number) : ¬b < 0x80 ∧ b < 0xB0 ∧
      b &&& 0x0F = number ∧ ofBits (b.toNat / 16) = some kind := by
  obtain ⟨hlow, -, hsome, hfields⟩ :=
    (byte_of_fields number).2.1 hnumber (some kind) (by cases kind <;> simp)
  exact hb ▸ ⟨hlow, hsome.2 rfl, hfields⟩

theorem bare_byte {number : UInt8} (hnumber : number < 16) (hother : number ≠ 14) {b : UInt8}
    (hb : b = 0xB0 + number) : b ≠ 0xBE ∧ ¬b < 0x80 ∧ b < 0xC0 ∧ b &&& 0x0F = number ∧
      ofBits (b.toNat / 16) = none := by
  obtain ⟨hlow, hhigh, -, hfield, hkind⟩ := (byte_of_fields number).2.1 hnumber none (by simp)
  obtain rfl : b = 0x80 + 0x10 * bits none + number := hb
  refine ⟨fun h => hother ?_, hlow, hhigh, hfield, hkind⟩
  rw [← hfield, h]
  rfl

theorem variable_fields {number : UInt8} (hnumber : number < 32) (two : Bool) {b : UInt8}
    (hb : b = (if two then 0xC0 else 0xE0) + number) :
    ¬b < 0xC0 ∧ b &&& 0x1F = number ∧ (b &&& 0x20 = 0 ↔ two) :=
  hb ▸ (byte_of_fields number).2.2 hnumber two

end Opens

theorem Branch.first_byte (b : UInt8) : b &&& 0x3F < 0x40 ∧ (b &&& 0x3F).toNat = b.toNat % 64 ∧
    b = polarity (b &&& 0x80 != 0) + (if b &&& 0x40 != 0 then 0x40 else 0) + (b &&& 0x3F) := by
  revert b
  exact forall_byte (by decide +kernel)

/-- The fields of the first byte of a branch. -/
theorem Branch.first_fields {offset : UInt8} (hoffset : offset < 0x40) (onTrue six : Bool)
    {b : UInt8} (hb : b = polarity onTrue + (if six then 0x40 else 0) + offset) :
    (b &&& 0x80 != 0) = onTrue ∧ (b &&& 0x40 != 0) = six ∧ b.toNat % 64 = offset.toNat := by
  have hall : ∀ offset : UInt8, offset < 0x40 → ∀ onTrue six : Bool,
      let b := polarity onTrue + (if six then 0x40 else 0) + offset
      (b &&& 0x80 != 0) = onTrue ∧ (b &&& 0x40 != 0) = six ∧ b.toNat % 64 = offset.toNat :=
    forall_byte (by decide +kernel)
  exact hb ▸ hall offset hoffset onTrue six

theorem Opens.first {cls : OpClass} {number : UInt8} {kinds : List OperandKind} {bytes : List UInt8}
    (h : Opens cls number kinds bytes) : ∃ first, bytes.head? = some first := by
  cases h <;> exact ⟨_, rfl⟩

namespace Instruction.Written

variable {pos : Nat} {i : Instruction} {bytes : List UInt8}

theorem next_eq (h : Written pos i bytes) : i.next = .ofNat (pos + bytes.length) := by
  cases h
  rfl

/-- An instruction has at least one byte. -/
theorem ne_nil (h : Written pos i bytes) : bytes ≠ [] := by
  cases h with
  | mk hopens =>
    obtain ⟨first, hfirst⟩ := hopens.first
    rintro hnil
    simp only [List.append_eq_nil_iff] at hnil
    rw [hnil.1.1.1.1] at hfirst
    cases hfirst

end Instruction.Written

/-! ## Offsets and words -/

theorem BranchTarget.branchTarget_eq_iff (after : Nat) (offset : Int) (target : BranchTarget) :
    Scan.branchTarget after offset = target ↔ target.Meets after offset := by
  have hofInt : ∀ (z : Int) (t : UInt32), UInt32.ofInt z = t ↔ (t.toNat : Int) = z % 2 ^ 32 := by
    intro z t
    have hz : 0 ≤ z % 2 ^ 32 := Int.emod_nonneg z (by decide)
    have htoNat : (UInt32.ofInt z).toNat = (z % 2 ^ 32).toNat % 2 ^ 32 := UInt32.toNat_ofNat'
    rw [← UInt32.toNat_inj, htoNat]
    omega
  unfold Scan.branchTarget
  by_cases hzero : offset = 0
  · cases target <;> simp [Meets, hzero]
  · by_cases hone : offset = 1
    · cases target <;> simp [Meets, hone]
    · cases target <;> simp [Meets, hzero, hone, hofInt]

theorem signed14_eq_iff {n : Nat} (hn : n < 0x4000) (offset : Int) :
    Scan.signed14 n = offset ↔
      -0x2000 ≤ offset ∧ offset < 0x2000 ∧ (n : Int) = offset % 0x4000 := by
  unfold Scan.signed14
  split <;> omega

theorem IsText.ne_nil {bytes : List UInt8} (h : IsText bytes) : bytes ≠ [] := by
  cases h with
  | last w => exact List.cons_ne_nil _ _
  | more w => exact List.cons_ne_nil _ _

end ZMachine
