/-!
# Journal

What happened beside the story.  Each kind of record has a target it is filed under, a level and the
names of the fields it is written with; a log filter decides by these alone, so the journal only
keeps which kinds of records there were.
-/

namespace ZMachine

/-- How much a record matters. -/
inductive Level where
  | error
  | warn
  | info
  | debug
  | trace
deriving DecidableEq, Repr, Inhabited

/-- The rank of a level; a filter that lets a level through lets all smaller ranks through. -/
def Level.rank : Level → Nat
  | .error => 1
  | .warn => 2
  | .info => 3
  | .debug => 4
  | .trace => 5

inductive Record where
  /-- An event is being handled. -/
  | eventTaken
  /-- Another story was loaded, and the blocks of the one before it are dropped. -/
  | blocksDropped
  /-- A typed line is longer than the story takes. -/
  | lineCut
  /-- A batch of orders goes to the host. -/
  | batchClosed
  /-- A block was in the cache. -/
  | blockFound
  /-- A block was formed of code that the story may change. -/
  | blockChangeable
  /-- A block was formed. -/
  | blockFormed
  /-- A machine is ready to start. -/
  | machineReady
  /-- The story asks the host for something. -/
  | controlAsked
  /-- An instruction works on object 0. -/
  | objectMissing
  /-- Save data cannot be used. -/
  | saveRefused
  /-- The story chose an output stream that is not provided. -/
  | streamUnknown
  /-- A line was split into words. -/
  | lineSplit
  /-- An order is not shown by a terminal. -/
  | orderNotShown
  /-- The line editor reads from something that is not a terminal. -/
  | lineAwaited
deriving DecidableEq, Repr, Inhabited

namespace Record

/-- The target that a kind of record is filed under. -/
def target : Record → String
  | eventTaken | blocksDropped | lineCut | batchClosed => "zvm::engine"
  | blockFound => "zvm::cache"
  | blockChangeable | blockFormed => "zvm::codegen"
  | machineReady => "zvm::machine"
  | controlAsked => "zvm::exec"
  | objectMissing => "zvm::object"
  | saveRefused => "zvm::persist"
  | streamUnknown => "zvm::streams"
  | lineSplit => "zvm::text"
  | orderNotShown => "zvm::cli"
  | lineAwaited => "rustyline"

def level : Record → Level
  | blockFound => .trace
  | lineCut | blockChangeable | objectMissing | saveRefused => .warn
  | _ => .debug

/-- The fields of a kind of record beside its message. -/
def details : Record → List String
  | eventTaken => ["event"]
  | blocksDropped => ["entries"]
  | lineCut => ["got", "max"]
  | batchClosed => ["order", "pending"]
  | blockFound => ["pc"]
  | blockChangeable => ["pc", "static_memory"]
  | blockFormed => ["unit"]
  | machineReady => ["version", "release", "pc"]
  | controlAsked => ["order", "pc"]
  | objectMissing => ["op", "pc"]
  | saveRefused => ["error"]
  | streamUnknown => ["stream"]
  | lineSplit => ["words"]
  | orderNotShown => ["order"]
  | lineAwaited => ["log.target", "log.module_path", "log.file", "log.line"]

/-- The names of all fields of a kind of record. -/
def fields (r : Record) : List String :=
  "message" :: r.details

end Record

/-- The kinds of records there were. -/
abbrev Journal := List Record

def Journal.note (r : Record) (j : Journal) : Journal :=
  if j.contains r then j else r :: j

end ZMachine
