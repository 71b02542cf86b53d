import ZMachine.Config
import ZMachine.Variable

/-!
# Events

What the host tells the machine.  Each event is handled to its end before the next one; the
machine answers it with a batch of orders.  An envelope may carry new settings, which hold from
this event on.
-/

namespace ZMachine

inductive Key where
  | char (c : Char)
  | enter
  | escape
  | backspace
  | delete
  | up
  | down
  | left
  | right
  | function (n : UInt8)
deriving DecidableEq, Repr, Inhabited

/-- A line the player typed; it repeats what the order asking for it named. -/
structure LineInput where
  response : String
  /-- The ZSCII code of the key that ended the line. -/
  terminator : UInt8
  buffer : UInt32
  parse : UInt32
  length : UInt8
  storer : Variable
deriving DecidableEq, Repr, Inhabited

structure StoreResult where
  storer : Variable
  value : UInt16
deriving DecidableEq, Repr, Inhabited

/-- What the host tells the machine. -/
inductive Event where
  | load (data : List UInt8)
  | restart
  | restore (data : Option (List UInt8)) (storer : Option Variable)
  | read (input : LineInput)
  | char (key : Key) (storer : Variable)
  | resume (result : Option StoreResult)
deriving DecidableEq, Repr, Inhabited

/-- An event and, if the host wants, new settings. -/
structure Envelope where
  event : Event
  env : Option Patch := none
deriving DecidableEq, Repr, Inhabited

def Event.name : Event → String
  | load _ => "load"
  | restart => "restart"
  | restore .. => "restore"
  | read _ => "read"
  | char .. => "char"
  | resume _ => "resume"

end ZMachine
