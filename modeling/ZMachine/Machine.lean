import ZMachine.Property
import ZMachine.Random
import ZMachine.Stack
import ZMachine.Text.Dictionary

/-!
# The machine

Everything a restart rebuilds: the memory and the header read from it, the program counter, the
stack, the random numbers and the output streams, beside the story as it was loaded.

Text goes to the screen or, while stream 3 is selected, into a table in memory.  Tables nest; the
innermost one takes all text, and the word at its address counts the bytes written after it.

A fault ends an action and leaves the machine as it was when the fault came up.
-/

namespace ZMachine

/-! ## Output streams -/

/-- A table that takes text: its address and the number of bytes written. -/
structure TableStream where
  address : UInt32
  written : UInt16
deriving DecidableEq, Repr, Inhabited

/-- The selected output streams; the innermost table comes first. -/
structure OutputStreams where
  screen : Bool := true
  tables : List TableStream := []
deriving DecidableEq, Repr, Inhabited

namespace OutputStreams

/-- How deep tables may nest. -/
def maxTables : Nat := 16

/-- Whether text goes into a table. -/
def memoryActive (s : OutputStreams) : Bool :=
  !s.tables.isEmpty

end OutputStreams

/-! ## The machine -/

structure Machine where
  memory : Memory
  header : Header
  pc : UInt32
  stack : Stack := {}
  random : Random := {}
  streams : OutputStreams := {}
  /-- The story as it was loaded. -/
  story : Memory
  halted : Bool := false
deriving DecidableEq

abbrev MachineM := EStateM Fault Machine

namespace Machine

/-- A machine at the start of a story.  Of the memory before it, only flags 2 are kept. -/
def start (story : Memory) (previous : Option Memory) : Except Fault Machine := do
  let header ← Header.parse story
  let memory ← match previous with
    | none => pure story
    | some p => match Header.carryFlags p story with
      | .ok _ memory => pure memory
      | .error e _ => throw e
  return { memory, header, pc := header.initialPc, story }

def onMemory {α : Type} (action : MemoryM α) : MachineM α
  | ⟨memory, header, pc, stack, random, streams, story, halted⟩ =>
    match action memory with
    | .ok a memory => .ok a ⟨memory, header, pc, stack, random, streams, story, halted⟩
    | .error e memory => .error e ⟨memory, header, pc, stack, random, streams, story, halted⟩

def onStack {α : Type} (action : StackM α) : MachineM α
  | ⟨memory, header, pc, stack, random, streams, story, halted⟩ =>
    match action stack with
    | .ok a stack => .ok a ⟨memory, header, pc, stack, random, streams, story, halted⟩
    | .error e stack => .error e ⟨memory, header, pc, stack, random, streams, story, halted⟩

def ask {α : Type} (question : Memory → Header → Except Fault α) : MachineM α := do
  let s ← get
  question s.memory s.header

def askObjects {α : Type} (question : ObjectTable → Memory → Except Fault α) : MachineM α :=
  ask fun m h => question h.objectTable m

def onObjects {α : Type} (action : ObjectTable → MemoryM α) : MachineM α := do
  onMemory (action (← get).header.objectTable)

/-- Brings the random numbers back to the baseline and writes what the machine can do into the
header, as after every restart and every restore. -/
def syncHeader (c : Config) : MachineM Unit := do
  modify fun s => { s with random := {} }
  onMemory ((← get).header.writeCapabilities c)

/-- The sum of the story's bytes after the header, as far as the header's length goes. -/
def checksum (s : Machine) : UInt16 :=
  let stop := min s.header.fileLength s.story.size
  (s.story.bytes.extract Layout.size stop).foldl (fun sum b => sum + b.toUInt16) 0

/-! ## Variables -/

def globalAddress (h : Header) (v : Variable) : Nat :=
  h.globals + 2 * (v.number.toNat - 16)

/-- Reads a variable; the stack is popped. -/
def readVar (v : Variable) : MachineM UInt16 :=
  if v.number = 0 then onStack Stack.pop
  else if v.number < 16 then onStack (Stack.getLocal (v.number - 1))
  else ask fun m h => m.read16 (globalAddress h v)

/-- Writes a variable; the value is pushed on the stack. -/
def writeVar (v : Variable) (value : UInt16) : MachineM Unit :=
  if v.number = 0 then onStack (Stack.push value)
  else if v.number < 16 then onStack (Stack.setLocal (v.number - 1) value)
  else do onMemory (Memory.write16 (globalAddress (← get).header v) value)

/-- Reads a variable that an instruction names by number: the top of the stack stays. -/
def readIndirect (v : Variable) : MachineM UInt16 :=
  if v.number = 0 then onStack Stack.peek else readVar v

/-- Writes a variable that an instruction names by number: the top of the stack is replaced. -/
def writeIndirect (v : Variable) (value : UInt16) : MachineM Unit :=
  if v.number = 0 then onStack (Stack.replaceTop value) else writeVar v value

/-- Stores a result; without a variable it is dropped. -/
def store (storer : Option Variable) (value : UInt16) : MachineM Unit :=
  match storer with
  | some v => writeVar v value
  | none => return

/-! ## Output -/

/-- Selects an output stream, or with a negative number deselects it.  Streams other than the
screen and tables are not provided, and nothing happens. -/
def selectStream (stream : Int) (table : UInt32) : MachineM Unit := do
  let s ← get
  if stream = 1 then set { s with streams := { s.streams with screen := true } }
  else if stream = -1 then set { s with streams := { s.streams with screen := false } }
  else if stream = 3 then
    if OutputStreams.maxTables ≤ s.streams.tables.length then
      throw (.streamNesting OutputStreams.maxTables)
    onMemory (Memory.write16 table.toNat 0)
    modify fun s => { s with streams.tables := ⟨table, 0⟩ :: s.streams.tables }
  else if stream = -3 then
    match s.streams.tables with
    | [] => pure ()
    | done :: rest =>
      set { s with streams := { s.streams with tables := rest } }
      onMemory (Memory.write16 done.address.toNat done.written)

/-- Writes bytes into the innermost table. -/
def writeTable (zscii : List UInt8) : MachineM Unit := do
  match (← get).streams.tables with
  | [] => return
  | t :: rest =>
    onMemory (Memory.writeBytes (t.address.toNat + 2 + t.written.toNat) zscii)
    let t := { t with written := t.written + .ofNat zscii.length }
    modify fun s => { s with streams := { s.streams with tables := t :: rest } }
    onMemory (Memory.write16 t.address.toNat t.written)

end Machine
end ZMachine
