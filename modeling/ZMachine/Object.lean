import ZMachine.Header
import ZMachine.Loop

/-!
# The object tree

Objects are numbered from 1; each has an entry of 14 bytes: 48 attributes, the numbers of its
parent, its sibling and its first child, and the address of its properties.  The children of an
object are its first child, that one's sibling, and so on until 0.

    remove o       takes o out of the children of its parent, the others keep their order
    insert o d     takes o out and makes it the first child of d

Object 0 is no object: what is asked of it is answered with 0 or `false`, and what is done to it
changes nothing.

Nothing makes sure that siblings come to an end.  Taking an object out of a chain that goes round
without it does not end either.
-/

namespace ZMachine

/-- Where the objects and the property defaults of a story are. -/
structure ObjectTable where
  /-- Where the entry of object 0 would be. -/
  base : Nat
  /-- Address of the word for property 1. -/
  defaults : Nat
deriving DecidableEq, Repr

def Header.objectTable (h : Header) : ObjectTable :=
  ⟨h.objects, h.propertyDefaults⟩

namespace ObjectTable

/-! ## Layout of an entry -/

def entrySize : Nat := 14

inductive Link where
  | parent
  | sibling
  | child
deriving DecidableEq, Repr

/-- Where a link is in an entry. -/
def Link.offset : Link → Nat
  | .parent => 6
  | .sibling => 8
  | .child => 10

/-- Where the address of the properties is in an entry. -/
def propertiesOffset : Nat := 12

def attributes : Nat := 48

def entry (t : ObjectTable) (o : UInt16) : Nat :=
  t.base + entrySize * o.toNat

/-! ## Attributes -/

/-- The byte that holds an attribute. -/
def attributeAddress (t : ObjectTable) (o attr : UInt16) : Nat :=
  t.entry o + attr.toNat / 8

/-- The bit of an attribute in its byte. -/
def attributeMask (attr : UInt16) : UInt8 :=
  0x80 >>> UInt8.ofNat (attr.toNat % 8)

/-- Whether an object has an attribute; there are 48. -/
def testAttribute (t : ObjectTable) (m : Memory) (o attr : UInt16) : Except Fault Bool := do
  if o = 0 ∨ attributes ≤ attr.toNat then return false
  let b ← m.read8 (t.attributeAddress o attr)
  return b &&& attributeMask attr != 0

/-- Gives an attribute to an object or takes it away. -/
def setAttribute (t : ObjectTable) (o attr : UInt16) (on : Bool) : MemoryM Unit := do
  if o = 0 ∨ attributes ≤ attr.toNat then return
  let address := t.attributeAddress o attr
  let b ← (← get).read8 address
  let mask := attributeMask attr
  Memory.write8 address (if on then b ||| mask else b &&& ~~~mask)

/-! ## Links -/

def link (t : ObjectTable) (l : Link) (m : Memory) (o : UInt16) : Except Fault UInt16 :=
  if o = 0 then return 0 else m.read16 (t.entry o + l.offset)

def parent (t : ObjectTable) : Memory → UInt16 → Except Fault UInt16 := t.link .parent

def sibling (t : ObjectTable) : Memory → UInt16 → Except Fault UInt16 := t.link .sibling

def child (t : ObjectTable) : Memory → UInt16 → Except Fault UInt16 := t.link .child

/-- Makes a link of an object lead to another one. -/
def setLink (t : ObjectTable) (l : Link) (o target : UInt16) : MemoryM Unit :=
  Memory.write16 (t.entry o + l.offset) target

/-! ## The tree -/

/-- A round of the walk along siblings: it ends at the object before `o`, or with the chain. -/
def walkRound (t : ObjectTable) (m : Memory) (o current : UInt16) :
    Round UInt16 (Except Fault (Option UInt16)) :=
  if current = 0 then .done (.ok none)
  else match t.sibling m current with
    | .error e => .done (.error e)
    | .ok next => if next = o then .done (.ok (some current)) else .again next

/-- Walks along the siblings from `first` on.  A chain that comes back to itself without `o` is walked
for ever. -/
def walk (t : ObjectTable) (m : Memory) (o first : UInt16) :
    Option (Except Fault (Option UInt16)) :=
  loop (t.walkRound m o) first

/-- The object before `o` in the chain of siblings that starts with `first`; `none` when the chain
ends without `o`.  Where the walk does not end, nothing is ever answered, and the fault that stands
for it is never seen. -/
def before (t : ObjectTable) (m : Memory) (o first : UInt16) : Except Fault (Option UInt16) :=
  (t.walk m o first).getD (.error (.endlessChain o))

/-- Takes an object out of the children of its parent. -/
def remove (t : ObjectTable) (o : UInt16) : MemoryM Unit := do
  if o = 0 then return
  let m ← get
  let parent ← t.parent m o
  if parent = 0 then return
  let next ← t.sibling m o
  let first ← t.child m parent
  if first = o then t.setLink .child parent next
  else
    match ← t.before m o first with
    | some current => t.setLink .sibling current next
    | none => pure ()
  t.setLink .parent o 0
  t.setLink .sibling o 0

/-- Makes an object the first child of another one. -/
def insert (t : ObjectTable) (o target : UInt16) : MemoryM Unit := do
  if o = 0 ∨ target = 0 then return
  t.remove o
  let first ← t.child (← get) target
  t.setLink .sibling o first
  t.setLink .parent o target
  t.setLink .child target o

end ObjectTable
end ZMachine
