import ZMachine.Object

/-!
# Properties of objects

The properties of an object are a list in memory: the object's short name, then for each property
a header with its number and length and then its data, in descending order of the numbers, and a
zero at the end.  A header has one byte when the length is 1 or 2, else two.

    get      the property's byte or first word; the default of the story when it is absent
    put      the same bytes written; absent properties cannot be written
-/

namespace ZMachine

/-- A property in its list: its number, its length and the address of its data. -/
structure Property where
  number : Nat
  length : Nat
  data : Nat
deriving DecidableEq, Repr

/-- The address after a property. -/
def Property.stop (p : Property) : Nat :=
  p.data + p.length

namespace ObjectTable

/-! ## Walking the list -/

/-- The length that the second byte of a long header, or the byte before long data, tells. -/
def longLength (b : UInt8) : Nat :=
  if b.toNat % 64 = 0 then 64 else b.toNat % 64

/-- The property with its header at an address; `none` at the end of the list. -/
def propertyAt (m : Memory) (address : Nat) : Except Fault (Option Property) := do
  let b ← m.read8 address
  if b = 0 then return none
  let number := b.toNat % 64
  if b &&& 0x80 != 0 then
    let second ← m.read8 (address + 1)
    return some ⟨number, longLength second, address + 2⟩
  else
    return some ⟨number, if b &&& 0x40 != 0 then 2 else 1, address + 1⟩

def propertyTable (t : ObjectTable) (m : Memory) (o : UInt16) : Except Fault Nat := do
  return (← m.read16 (t.entry o + propertiesOffset)).toNat

/-- The address of an object's short name, if it has one. -/
def shortName (t : ObjectTable) (m : Memory) (o : UInt16) : Except Fault (Option Nat) := do
  if o = 0 then return none
  let table ← t.propertyTable m o
  let words ← m.read8 table
  if words = 0 then return none else return some (table + 1)

/-- The address of the first property header of an object. -/
def firstAddress (t : ObjectTable) (m : Memory) (o : UInt16) : Except Fault Nat := do
  let table ← t.propertyTable m o
  let words ← m.read8 table
  return table + 1 + 2 * words.toNat

/-- The property with a number in the list from an address on.  The search ends at the first
smaller number.  Each property takes bytes, so the size of the memory bounds the list. -/
def findFrom (m : Memory) (number : Nat) :
    (fuel address : Nat) → Except Fault (Option Property)
  | 0, address => throw (.outOfRange ⟨address, 1, m.size⟩)
  | fuel + 1, address => do
    match ← propertyAt m address with
    | none => return none
    | some p =>
      if p.number = number then return some p
      else if p.number < number then return none
      else findFrom m number fuel p.stop

/-- The property of an object with a number. -/
def find (t : ObjectTable) (m : Memory) (o number : UInt16) : Except Fault (Option Property) := do
  findFrom m number.toNat (m.size + 1) (← t.firstAddress m o)

/-! ## Reading and writing -/

def defaultAddress (t : ObjectTable) (number : UInt16) : Nat :=
  t.defaults + 2 * (max 1 number.toNat - 1)

/-- The value of a property: its byte if it has one byte, else its first word. -/
def value (m : Memory) (p : Property) : Except Fault UInt16 := do
  if p.length = 1 then return (← m.read8 p.data).toUInt16 else m.read16 p.data

/-- The value of a property of an object, or its default. -/
def getProperty (t : ObjectTable) (m : Memory) (o number : UInt16) : Except Fault UInt16 := do
  let found ← if o = 0 then pure none else t.find m o number
  match found with
  | some p => value m p
  | none => m.read16 (t.defaultAddress number)

/-- The address of a property's data, or 0. -/
def propertyAddress (t : ObjectTable) (m : Memory) (o number : UInt16) : Except Fault UInt16 := do
  if o = 0 then return 0
  match ← t.find m o number with
  | some p => return .ofNat p.data
  | none => return 0

/-- The length of the property with data at an address; 0 for address 0. -/
def propertyLength (m : Memory) (data : UInt16) : Except Fault UInt16 := do
  if data = 0 then return 0
  let b ← m.read8 (data.toNat - 1)
  if b &&& 0x80 != 0 then return .ofNat (longLength b)
  else if b &&& 0x40 != 0 then return 2
  else return 1

/-- The number of the property after one, or of the first one after 0; 0 at the end. -/
def nextProperty (t : ObjectTable) (m : Memory) (o number : UInt16) : Except Fault UInt16 := do
  if o = 0 then return 0
  let next ←
    if number = 0 then propertyAt m (← t.firstAddress m o)
    else match ← t.find m o number with
      | some p => propertyAt m p.stop
      | none => pure none
  match next with
  | some p => return .ofNat p.number
  | none => return 0

/-- Writes a property of an object: one byte if it has one byte, else its first word. -/
def putProperty (t : ObjectTable) (o number value : UInt16) : MemoryM Unit := do
  if o = 0 then return
  match ← t.find (← get) o number with
  | some p =>
    if p.length = 1 then Memory.write8 p.data (lowByte value) else Memory.write16 p.data value
  | none => throw (.noSuchProperty o number)

end ObjectTable
end ZMachine
