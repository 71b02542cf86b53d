import ZMachine.Block.Cache
import ZMachine.Text.Case
import ZMachine.Text.Key

/-!
# The engine

The engine owns the machine, the cache of blocks and the undo history, and handles one event of the
host after another.  An event first drops output that was never handed over and takes in new
settings; then it does its own part, for instance storing a typed line; then the story runs until
it asks the host for something or its time slice is over.

    handle e = .ok orders      orders: what is to be shown, the status line, one control order
                               (nothing for a load, which does not run the story)

A fault before the run leaves the machine running.  A fault during the run halts it: then only load
and restart are accepted.

The time slice is counted in units of execution, and the count is an argument of `handleWithin`.
-/

namespace ZMachine

/-- A story with all that belongs to playing it. -/
structure Engine where
  config : Config := {}
  /-- The story as it was loaded. -/
  story : Option Memory := none
  machine : Option Machine := none
  cache : Cache := {}
  undo : Undo
  window : Window := {}
  entropy : Entropy := ⟨0⟩
  journal : Journal := []

abbrev EngineM := EStateM Fault Engine

/-! ## Running -/

/-- What the run loop works on. -/
structure Run where
  context : Context
  cache : Cache

abbrev RunM := EStateM Fault Run

namespace Run

/-- Adds a kind of record to the journal. -/
def note (r : Record) : RunM Unit :=
  modify fun run => { run with context.journal := run.context.journal.note r }

/-- Asks the cache for the block at an address. -/
def lookup (pc : UInt32) : RunM (Option Block)
  | ⟨context, cache⟩ =>
    let (found, cache) := cache.lookup pc
    .ok found ⟨context, cache⟩

/-- The block at the pc, from the cache or newly formed. -/
def fetch : RunM Block := do
  let pc := (← get).context.machine.pc
  match ← lookup pc with
  | some b =>
    note .blockFound
    return b
  | none =>
    let s := (← get).context.machine
    let b ← Block.compile s.memory pc
    if pc.toNat < s.header.staticMemory then note .blockChangeable
    note .blockFormed
    modify fun r => { r with cache := r.cache.insert b }
    return b

/-- Executes a block; a fault is told with the name of the block. -/
def execute (config : Config) (b : Block) : RunM Unit
  | ⟨context, cache⟩ =>
    match b.execute config context with
    | .ok _ context => .ok () ⟨context, cache⟩
    | .error e context => .error (.executing b.label e) ⟨context, cache⟩

/-- Takes what the host was asked for.  A machine that quits is halted. -/
def takeControl : RunM (Option Order)
  | ⟨context, cache⟩ =>
    let control := context.control
    let context := { context with control := none }
    let context :=
      if control = some .quit then { context with machine.halted := true } else context
    .ok control ⟨context, cache⟩

def turn (config : Config) : RunM (Option Order) := do
  execute config (← fetch)
  takeControl

/-- Runs blocks until the host is asked for something, at most `units` of them. -/
def loop (config : Config) : (units : Nat) → RunM Order
  | 0 => return .tick
  | units + 1 => do
    match ← turn config with
    | some control => return control
    | none => loop config units

end Run

namespace Engine

/-- An engine without a story. -/
def ofConfig (config : Config) (entropy : Entropy) : Engine where
  config
  undo := .ofDepth config.undoDepth
  entropy

/-- Adds a kind of record to the journal. -/
def note (r : Record) : EngineM Unit :=
  modify fun e => { e with journal := e.journal.note r }

/-- The output so far, the status line, and the control order that closes the batch. -/
def deliver (control : Order) (w : Window) : List Order × Window :=
  let (orders, w) := w.flush
  let (status, w) := w.takeStatus
  let status := match status with
    | some text => [Order.stream .status text 0]
    | none => []
  (orders ++ status ++ [control], w)

/-- Runs the story for at most `units` blocks and hands over the output.  After a fault the machine
is halted and no output is left. -/
def run (units : Nat) : EngineM (List Order)
  | ⟨config, story, none, cache, undo, _, entropy, journal⟩ =>
    .error .notStarted ⟨config, story, none, cache, undo, {}, entropy, journal⟩
  | ⟨config, story, some machine, cache, undo, window, entropy, journal⟩ =>
    match Run.loop config units ⟨{ machine, window, undo, entropy, journal }, cache⟩ with
    | .ok control ⟨c, cache⟩ =>
      let (orders, window) := deliver control c.window
      .ok orders ⟨config, story, some c.machine, cache, c.undo, window, c.entropy,
        c.journal.note .batchClosed⟩
    | .error e ⟨c, cache⟩ =>
      .error e ⟨config, story, some { c.machine with halted := true }, cache, c.undo, {},
        c.entropy, c.journal⟩

/-! ## Events -/

/-- Takes in new settings. -/
def updateEnv (p : Patch) (e : Engine) : Engine :=
  let config := e.config.apply p
  { e with config, undo := e.undo.setDepth config.undoDepth }

/-- Drops the output that was never handed over. -/
def dropOutput (e : Engine) : Engine :=
  { e with window := (e.window.flush.2).takeStatus.2 }

/-- Loads a story.  The blocks of another story are dropped. -/
def load (data : List UInt8) (e : Engine) : Engine :=
  let story := Memory.ofList data
  if e.story ≠ some story ∧ !e.cache.isEmpty then
    { e with
      story := some story
      cache := e.cache.clear
      journal := e.journal.note .blocksDropped }
  else { e with story := some story }

/-- Runs an action on the machine, if there is one. -/
def onMachine {α : Type} (action : MachineM α) : EngineM α
  | ⟨config, story, none, cache, undo, window, entropy, journal⟩ =>
    .error .notStarted ⟨config, story, none, cache, undo, window, entropy, journal⟩
  | ⟨config, story, some machine, cache, undo, window, entropy, journal⟩ =>
    match action machine with
    | .ok a machine => .ok a ⟨config, story, some machine, cache, undo, window, entropy, journal⟩
    | .error e machine =>
      .error e ⟨config, story, some machine, cache, undo, window, entropy, journal⟩

/-- Refuses to go on without a machine that is running. -/
def checkRunning : EngineM Unit :=
  onMachine do if (← get).halted then throw .halted

/-- Starts the story again.  Only flags 2 of the memory are kept. -/
def restart : EngineM Unit := do
  let e ← get
  match e.story with
  | none => throw .noStory
  | some story =>
    let machine ← Machine.start story (e.machine.map (·.memory))
    set { e with
      machine := some machine
      undo := e.undo.clear
      window := {}
      journal := e.journal.note .machineReady }
    onMachine (Machine.syncHeader e.config)

/-- The snapshot in save data, put in force; answers where its result goes. -/
def applySave (data : List UInt8) : MachineM (Option Variable) := do
  match Snapshot.decode data (← get).story with
  | .ok snapshot =>
    snapshot.apply
    return snapshot.storer
  | .error e => throw (.save e)

/-- Goes back to a saved point, which is told by a 2.  Data that cannot be used count as none, and
the failure is told by a 0. -/
def restore (data : Option (List UInt8)) (storer : Option Variable) : EngineM Unit := do
  checkRunning
  match data with
  | none => onMachine (Machine.store storer 0)
  | some data =>
    match ← onMachine (try some <$> applySave data catch _ => pure none) with
    | some target =>
      onMachine (Machine.syncHeader (← get).config)
      onMachine (Machine.store target 2)
    | none =>
      note .saveRefused
      onMachine (Machine.store storer 0)

/-- Takes in a line: the key that ended it is stored, the line is shown, and its text goes into the
text buffer in the lower case that `lower` makes of it, cut to the length asked for, and is split into
words. -/
def lineInput (lower : String → String) (i : LineInput) : EngineM Unit := do
  checkRunning
  onMachine (Machine.writeVar i.storer i.terminator.toUInt16)
  modify fun e => { e with window := (e.window.print i.response).print "\n" }
  let extra ← onMachine (Machine.ask ExtraChars.ofStory)
  let zscii := extra.encode (lower i.response)
  if i.length.toNat < zscii.length then note .lineCut
  let zscii := zscii.take i.length.toNat
  let buffer := i.buffer.toNat
  onMachine (Machine.onMemory (Memory.write8 (buffer + 1) (.ofNat zscii.length)))
  onMachine (Machine.onMemory (Memory.writeBytes (buffer + 2) zscii))
  if i.parse ≠ 0 then
    onMachine do
      let h := (← get).header
      Machine.onMemory (tokenise h buffer i.parse.toNat 0 false)
    note .lineSplit

def charInput (key : Key) (storer : Variable) : EngineM Unit := do
  checkRunning
  let code ← onMachine (Machine.ask fun m h => keyCode m h key)
  onMachine (Machine.writeVar storer code)

def resume (result : Option StoreResult) : EngineM Unit := do
  checkRunning
  match result with
  | some r => onMachine (Machine.writeVar r.storer r.value)
  | none => return

/-- What an event does before the story runs; answers whether it is to run. -/
def take : Event → EngineM Bool
  | .load data => do
    modify (load data)
    return false
  | .restart => do
    restart
    return true
  | .restore data storer => do
    restore data storer
    return true
  | .read input => do
    lineInput Case.lowerCase input
    return true
  | .char key storer => do
    charInput key storer
    return true
  | .resume result => do
    resume result
    return true

/-- Makes ready for an event. -/
def prepare (env : Option Patch) (e : Engine) : Engine :=
  let e := e.dropOutput
  match env with
  | some p => e.updateEnv p
  | none => e

/-- Handles an event; the story runs for as many blocks as `units` says for the settings. -/
def handleWithin (units : Config → Nat) (envelope : Envelope) : EngineM (List Order) := do
  modify (prepare envelope.env)
  note .eventTaken
  if ← take envelope.event then run (units (← get).config)
  else return []

/-- Handles an event within the time slice. -/
def handle (envelope : Envelope) : EngineM (List Order) :=
  handleWithin Config.sliceUnits envelope

end Engine
end ZMachine
