import ZMachine.Variable

/-!
# Orders

What the machine asks of its host.  A batch of orders is output to show, closed by one control
order, which says why the machine stopped and what it needs to go on.
-/

namespace ZMachine

inductive StreamTarget where
  | main
  | status
deriving DecidableEq, Repr, Inhabited

/-- A request to the host. -/
inductive Order where
  | stream (target : StreamTarget) (text : String) (style : UInt16)
  | splitWindow (lines : UInt16)
  | eraseWindow (window : Int16)
  | setCursor (row col : UInt16)
  | setColour (foreground background : UInt16)
  /-- The time slice is over; the host answers by resuming. -/
  | tick
  | read (buffer parse : UInt32) (length : UInt8) (storer : Variable) (time routine : UInt16)
  | char (storer : Variable) (time routine : UInt16)
  | save (data : List UInt8) (storer : Option Variable)
  | restore (storer : Option Variable)
  | restart
  | quit
deriving DecidableEq, Repr, Inhabited

namespace Order

/-- Whether an order closes a batch. -/
def isControl : Order → Bool
  | tick | read .. | char .. | save .. | restore .. | restart | quit => true
  | _ => false

def code : Order → String
  | stream .. => "stream"
  | splitWindow _ => "split_window"
  | eraseWindow _ => "erase_window"
  | setCursor .. => "set_cursor"
  | setColour .. => "set_colour"
  | tick => "tick"
  | read .. => "read"
  | char .. => "char"
  | save .. => "save"
  | restore _ => "restore"
  | restart => "restart"
  | quit => "quit"

end Order
end ZMachine
