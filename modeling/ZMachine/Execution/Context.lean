import ZMachine.Journal
import ZMachine.Snapshot.Container
import ZMachine.Undo
import ZMachine.Window

/-!
# The context of execution

What an instruction can read and change: the machine, the screen, the undo history, and the control
order by which it asks the host for something.  A fault ends an action and leaves the context as it
was when the fault came up.

A call puts a frame on the stack and jumps into the routine; a return takes the frame off, drops
what the routine left on the value stack, jumps back and stores the value:

    call, then ret v     the stack and the pc of the caller, with v stored
-/

namespace ZMachine

/-- What an instruction can read and change. -/
structure Context where
  machine : Machine
  window : Window := {}
  undo : Undo
  /-- What the host is asked for. -/
  control : Option Order := none
  entropy : Entropy := ⟨0⟩
  journal : Journal := []
deriving DecidableEq

abbrev Exec := EStateM Fault Context

namespace Context

def onMachine {α : Type} (action : MachineM α) : Exec α
  | ⟨machine, window, undo, control, entropy, journal⟩ =>
    match action machine with
    | .ok a machine => .ok a ⟨machine, window, undo, control, entropy, journal⟩
    | .error e machine => .error e ⟨machine, window, undo, control, entropy, journal⟩

def onMemory {α : Type} (action : MemoryM α) : Exec α :=
  onMachine (Machine.onMemory action)

def ask {α : Type} (question : Memory → Header → Except Fault α) : Exec α :=
  onMachine (Machine.ask question)

def onWindow (change : Window → Window) : Exec Unit :=
  modify fun c => { c with window := change c.window }

/-- Adds a kind of record to the journal. -/
def note (r : Record) : Exec Unit :=
  modify fun c => { c with journal := c.journal.note r }

/-- Asks the host for something. -/
def request (order : Order) : Exec Unit :=
  modify fun c => { c with control := some order, journal := c.journal.note .controlAsked }

def store (storer : Option Variable) (value : UInt16) : Exec Unit :=
  onMachine (Machine.store storer value)

/-! ## Control flow -/

def jump (address : UInt32) : Exec Unit :=
  onMachine (modify fun s => { s with pc := address })

/-- Returns from the running routine. -/
def ret (value : UInt16) : Exec Unit := do
  let frame ← onMachine (Machine.onStack Stack.popFrame)
  jump frame.returnPc
  store frame.storer value

def branch (b : Branch) (condition : Bool) : Exec Unit :=
  if condition = b.onTrue then
    match b.target with
    | .returnFalse => ret 0
    | .returnTrue => ret 1
    | .address target => jump target
  else return

/-- The locals of a routine with `count` of them, the first ones set to the arguments. -/
def initialLocals (count : Nat) (arguments : List UInt16) : List UInt16 :=
  (arguments ++ List.replicate count 0).take count

/-- Calls the routine at a packed address.  A call of address 0 stores 0. -/
def call (packed : UInt16) (arguments : List UInt16) (storer : Option Variable) : Exec Unit := do
  if packed = 0 then store storer 0
  else
    let s := (← get).machine
    let address := s.header.unpack packed
    let count ← s.memory.read8 address
    if Stack.maxLocals < count.toNat then throw (.tooManyLocals address count.toNat)
    let frame : Frame := {
      returnPc := s.pc
      storer
      locals := initialLocals count.toNat arguments
      argCount := .ofNat arguments.length
      stackBase := s.stack.values.size }
    onMachine (Machine.onStack (Stack.pushFrame frame))
    jump (.ofNat (address + 1))

/-- The cookie of the running routine: how many routines are running. -/
def catchCookie : Exec UInt16 := do
  return .ofNat (← get).machine.stack.depth

/-- Returns from the routine with a cookie, leaving all routines it called. -/
def throwTo (value cookie : UInt16) : Exec Unit := do
  let depth := (← get).machine.stack.depth
  if cookie = 0 ∨ depth < cookie.toNat then throw (.staleFrame cookie.toNat depth)
  onMachine (Machine.onStack (Stack.popFrames (depth - cookie.toNat)))
  ret value

/-- The number of arguments the running routine was called with. -/
def argCount : Exec UInt8 := do
  match (← get).machine.stack.frames with
  | f :: _ => return f.argCount
  | [] => return 0

/-! ## Output -/

/-- Prints text on the selected output stream. -/
def print (text : String) : Exec Unit := do
  let s := (← get).machine.streams
  if s.memoryActive then
    let extra ← ask ExtraChars.ofStory
    onMachine (Machine.writeTable (extra.encode text))
  else if s.screen then onWindow (.print text)

/-- Prints the z-string at an address and answers the address after it. -/
def printZString (address : Nat) : Exec Nat := do
  let decoded ← ask fun m h => ZString.decode m h address
  print decoded.text
  return decoded.stop

/-- The character of a ZSCII code. -/
def charOf (code : UInt16) : Exec (Option Char) := do
  return (← ask ExtraChars.ofStory).toChar? code

/-- Prints a ZSCII code, if it has a character. -/
def printZscii (code : UInt16) : Exec Unit := do
  match ← charOf code with
  | some c => print c.toString
  | none => return

/-! ## Undo -/

/-- Keeps a checkpoint and stores 1. -/
def saveUndo (storer : Option Variable) : Exec Unit := do
  modify fun c => { c with undo := c.undo.push (.capture c.machine storer) }
  store storer 1

/-- Goes back to the newest checkpoint, which is told by a 2; stores 0 when there is none. -/
def restoreUndo (config : Config) (storer : Option Variable) : Exec Unit := do
  match (← get).undo.pop with
  | none => store storer 0
  | some (snapshot, undo) =>
    modify fun c => { c with undo }
    onMachine snapshot.apply
    onMachine (Machine.syncHeader config)
    store snapshot.storer 2

/-! ## Random numbers -/

/-- Draws a number from 1 to `range`. -/
def draw (range : Nat) : Exec UInt16 := do
  let c ← get
  let (n, random, entropy) := c.machine.random.next c.entropy range
  set { c with machine := { c.machine with random }, entropy }
  return .ofNat n

end Context
end ZMachine
