import ZMachine.Execution.Context

/-!
# Operations on tables

Searching a table for a value, copying a table, and printing a table of characters row by row.

    scan m x table count form = some a     a is the address of the first entry equal to x
-/

namespace ZMachine.Table

/-- The distance between entries, from a form byte. -/
def fieldSize (form : UInt16) : Nat :=
  form.toNat % 128

/-- Whether entries are words, from a form byte. -/
def hasWords (form : UInt16) : Bool :=
  form &&& 0x80 != 0

def entry (m : Memory) (form : UInt16) (address : Nat) : Except OutOfRange UInt16 := do
  if hasWords form then m.read16 address else return (← m.read8 address).toUInt16

/-- The address of the first of `count` entries from an address on that equals a value. -/
def scan (m : Memory) (value form : UInt16) : (count address : Nat) → Except OutOfRange (Option Nat)
  | 0, _ => return none
  | count + 1, address => do
    if (← entry m form address) = value then return some address
    else scan m value form count (address + fieldSize form)

/-- Copies a table.  Without a target the source is filled with zeros; a negative size copies
forwards even where source and target overlap. -/
def copy (source target size : UInt16) : MemoryM Unit := do
  let count := (signed size).natAbs
  if target = 0 then Memory.writeBytes source.toNat (List.replicate count 0)
  else if signed size < 0 then Memory.copyForward source.toNat target.toNat count
  else
    let data ← (← get).readBytes source.toNat count
    Memory.writeBytes target.toNat data

/-- The characters of codes; codes without a character are passed over. -/
def rowText (codes : List UInt8) : Exec String := do
  let chars ← codes.filterMapM fun code => Context.charOf code.toUInt16
  return .ofList chars

/-- Prints `rows` rows of `width` codes from an address on, with `skip` bytes between rows; the
rows after the first one start a line. -/
def print (width skip : Nat) : (first : Bool) → (rows address : Nat) → Exec Unit
  | _, 0, _ => return
  | first, rows + 1, address => do
    if !first then Context.print "\n"
    let codes ← (← get).machine.memory.readBytes address width
    Context.print (← rowText codes)
    print width skip false rows (address + width + skip)

end ZMachine.Table
