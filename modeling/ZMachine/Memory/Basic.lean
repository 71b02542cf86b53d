/-!
# Byte memory

A story runs in a finite memory of bytes addressed from zero.  Words are two bytes, the high
one first.  An access that leaves the memory is answered by an `OutOfRange`, which names the
address, the number of bytes asked for and the size of the memory; it is never a default value.

    read16 m a = .ok (word b₀ b₁)   ↔   b₀, b₁ are the bytes at a and a + 1
-/

namespace ZMachine

/-- An access of `length` bytes at `address` that does not fit in `size` bytes. -/
structure OutOfRange where
  address : Nat
  length : Nat
  size : Nat
deriving DecidableEq, Repr

structure Memory where
  bytes : Array UInt8
deriving DecidableEq, Inhabited

def word (high low : UInt8) : UInt16 :=
  high.toUInt16 <<< 8 ||| low.toUInt16

def highByte (w : UInt16) : UInt8 :=
  (w >>> 8).toUInt8

def lowByte (w : UInt16) : UInt8 :=
  w.toUInt8

/-- A word read as a signed number. -/
def signed (w : UInt16) : Int :=
  w.toInt16.toInt

def wordBytes (w : UInt16) : List UInt8 :=
  [highByte w, lowByte w]

namespace Memory

/-! ## Algorithm -/

def size (m : Memory) : Nat :=
  m.bytes.size

def ofList (bytes : List UInt8) : Memory :=
  ⟨bytes.toArray⟩

def toList (m : Memory) : List UInt8 :=
  m.bytes.toList

def read8 (m : Memory) (address : Nat) : Except OutOfRange UInt8 :=
  if h : address < m.bytes.size then .ok m.bytes[address]
  else .error ⟨address, 1, m.size⟩

def read16 (m : Memory) (address : Nat) : Except OutOfRange UInt16 :=
  if h : address + 1 < m.bytes.size then .ok (word m.bytes[address] m.bytes[address + 1])
  else .error ⟨address, 2, m.size⟩

def readBytes (m : Memory) (address length : Nat) : Except OutOfRange (List UInt8) :=
  if address + length ≤ m.size then .ok (m.bytes.extract address (address + length)).toList
  else .error ⟨address, length, m.size⟩

/-- Replaces the byte at an address; outside the memory nothing happens. -/
def set8 (m : Memory) (address : Nat) (value : UInt8) : Memory :=
  ⟨m.bytes.setIfInBounds address value⟩

def setBytes (m : Memory) (address : Nat) : List UInt8 → Memory
  | [] => m
  | b :: rest => setBytes (m.set8 address b) (address + 1) rest

/-! ## Lemmas -/

@[simp] theorem size_set8 (m : Memory) (address : Nat) (value : UInt8) :
    (m.set8 address value).size = m.size := by
  simp [size, set8]

@[simp] theorem size_setBytes (m : Memory) (address : Nat) (data : List UInt8) :
    (m.setBytes address data).size = m.size := by
  induction data generalizing m address with
  | nil => rfl
  | cons b rest ih => simp [setBytes, ih]

end Memory
end ZMachine
