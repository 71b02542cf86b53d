import ZMachine.Memory.Basic
import ZMachine.Instruction.Basic

/-!
# Decoding

An instruction opens in one of four forms, told apart by its first byte:

    0x00 .. 0x7F   long       two operands, their kinds in bits 6 and 5
    0x80 .. 0xBF   short      one operand or none, its kind in bits 5 and 4
    0xBE           extended   the number, then a byte of operand kinds
    0xC0 .. 0xFF   variable   one byte of operand kinds, two for the long calls

A byte of operand kinds holds four, two bits each; the first omitted one ends the list.  After
the operands come the result variable, the branch and the text, each only if the operation has it.

`decode m a` reads bytes from `a` on and nothing else; it succeeds on exactly the encodings above.
-/

namespace ZMachine

/-- Why the bytes at an address are not an instruction. -/
inductive Undecodable where
  /-- The instruction runs past the end of the memory. -/
  | outOfRange (access : OutOfRange)
  /-- The operation does not exist; `first` is the first byte of the instruction. -/
  | unsupported (cls : OpClass) (number first : UInt8)
deriving DecidableEq, Repr

/-- How an operand is written. -/
inductive OperandKind where
  | large
  | small
  | variable
deriving DecidableEq, Repr

namespace OperandKind

/-- The kind written in two bits; `none` is an omitted operand. -/
def ofBits (n : Nat) : Option OperandKind :=
  match n % 4 with
  | 0 => some .large
  | 1 => some .small
  | 2 => some .variable
  | _ => none

/-- The four kinds in a byte, high bits first. -/
def ofByte (b : UInt8) : List (Option OperandKind) :=
  [ofBits (b.toNat / 64), ofBits (b.toNat / 16), ofBits (b.toNat / 4), ofBits b.toNat]

/-- The kinds before the first omitted one. -/
def present : List (Option OperandKind) → List OperandKind
  | some kind :: rest => kind :: present rest
  | _ => []

/-- The kinds that one or more bytes of kinds name. -/
def ofBytes (bytes : List UInt8) : List OperandKind :=
  present (bytes.flatMap ofByte)

/-- The kind that one bit of a long form names. -/
def ofLongBit (variableOperand : Bool) : OperandKind :=
  if variableOperand then .variable else .small

end OperandKind

/-! ## Algorithm -/

/-- Reads forward from a position. -/
abbrev Scan := StateT Nat (Except Undecodable)

namespace Scan

def byte (m : Memory) : Scan UInt8 := fun pos =>
  match m.read8 pos with
  | .ok b => .ok (b, pos + 1)
  | .error e => .error (.outOfRange e)

def word (m : Memory) : Scan UInt16 := fun pos =>
  match m.read16 pos with
  | .ok w => .ok (w, pos + 2)
  | .error e => .error (.outOfRange e)

def operand (m : Memory) : OperandKind → Scan Operand
  | .large => return .const (← word m)
  | .small => return .const (← byte m).toUInt16
  | .variable => return .var ⟨← byte m⟩

/-- The opening of an instruction: class and number of the operation, kinds of the operands. -/
structure Opening where
  first : UInt8
  cls : OpClass
  number : UInt8
  kinds : List OperandKind

/-- Whether an operation in variable form has two bytes of operand kinds. -/
def hasLongKinds (cls : OpClass) (number : UInt8) : Bool :=
  cls == .varOp && (number == 12 || number == 26)

/-- Everything before the operands. -/
def opening (m : Memory) : Scan Opening := do
  let first ← byte m
  if first = 0xBE then
    let number ← byte m
    let kinds ← byte m
    return ⟨first, .extOp, number, OperandKind.ofBytes [kinds]⟩
  else if first < 0x80 then
    return ⟨first, .twoOp, first &&& 0x1F,
      [.ofLongBit (first &&& 0x40 != 0), .ofLongBit (first &&& 0x20 != 0)]⟩
  else if first < 0xC0 then
    match OperandKind.ofBits (first.toNat / 16) with
    | some kind => return ⟨first, .oneOp, first &&& 0x0F, [kind]⟩
    | none => return ⟨first, .zeroOp, first &&& 0x0F, []⟩
  else
    let number := first &&& 0x1F
    let cls := if first &&& 0x20 = 0 then OpClass.twoOp else OpClass.varOp
    let kinds ← byte m
    if hasLongKinds cls number then
      let more ← byte m
      return ⟨first, cls, number, OperandKind.ofBytes [kinds, more]⟩
    else
      return ⟨first, cls, number, OperandKind.ofBytes [kinds]⟩

/-- The number that fourteen bits in two's complement stand for. -/
def signed14 (n : Nat) : Int :=
  if n < 0x2000 then n else (n : Int) - 0x4000

/-- Where a branch with the given offset goes, read up to position `pos`. -/
def branchTarget (pos : Nat) (offset : Int) : BranchTarget :=
  if offset = 0 then .returnFalse
  else if offset = 1 then .returnTrue
  else .address (UInt32.ofInt (pos + offset - 2))

/-- A branch: polarity in bit 7; bit 6 says that the offset has six bits, else it has fourteen. -/
def branch (m : Memory) : Scan Branch := do
  let first ← byte m
  let high := first.toNat % 64
  let offset : Int ←
    if first &&& 0x40 != 0 then pure (high : Int)
    else do
      let low ← byte m
      pure (signed14 (high * 256 + low.toNat))
  return ⟨first &&& 0x80 != 0, branchTarget (← get) offset⟩

/-- The position after the word that ends a z-string.  Every word takes two bytes, so the size
of the memory bounds the number of words. -/
def textEnd (m : Memory) : (fuel pos : Nat) → Except OutOfRange Nat
  | 0, pos => .error ⟨pos, 2, m.size⟩
  | fuel + 1, pos => do
    let w ← m.read16 pos
    if w &&& 0x8000 != 0 then return pos + 2 else textEnd m fuel (pos + 2)

/-- Passes over an inline z-string and answers its address. -/
def text (m : Memory) : Scan UInt32 := fun pos =>
  match textEnd m m.size pos with
  | .ok stop => .ok (.ofNat pos, stop)
  | .error e => .error (.outOfRange e)

/-- `read` if `present`, else nothing. -/
def optional {α : Type} (present : Bool) (read : Scan α) : Scan (Option α) :=
  if present then return some (← read) else return none

def instruction (m : Memory) (address : UInt32) : Scan Instruction := do
  let o ← opening m
  let operands ← o.kinds.mapM (operand m)
  match Opcode.lookup o.cls o.number with
  | none => throw (.unsupported o.cls o.number o.first)
  | some opcode =>
    let store ← optional opcode.stores (byte m)
    let branch ← optional opcode.branches (branch m)
    let text ← optional opcode.hasText (text m)
    return ⟨address, .ofNat (← get), opcode, operands, store.map .mk, branch, text⟩

end Scan

def Instruction.decode (m : Memory) (address : UInt32) : Except Undecodable Instruction :=
  (Scan.instruction m address).run' address.toNat

end ZMachine
