import ZMachine.Engine
import ZMachine.Text.Blank
import ZMachine.Wire.Event

/-!
# Serving

A peer plays a story through lines of JSON: each line it sends is an event, and each gets one line
in reply, the orders or an error.  An error does not end the session.  Blank lines are passed over.

    the replies are as many as the lines that are not blank
-/

namespace ZMachine

inductive Reply where
  | orders (batch : List Order)
  | fault (f : Fault)
  /-- The line is not an event. -/
  | badEvent
deriving DecidableEq, Repr

def Reply.toJson : Reply → Json
  | orders batch => .list Order.toJson batch
  | fault f => .obj [("error", .str f.message)]
  | badEvent => .obj [("error", .str "bad event: the line does not hold an event")]

namespace Engine

/-- An engine that has a story loaded. -/
def ofStory (config : Config) (entropy : Entropy) (story : List UInt8) : Engine :=
  let engine := ofConfig config entropy
  match handle { event := .load story } engine with
  | .ok _ engine => engine
  | .error _ engine => engine

/-- Handles the event on a line; a blank line has no reply. -/
def reply (line : String) (engine : Engine) : Option Reply × Engine :=
  if Text.isBlankText line then (none, engine)
  else match Envelope.ofText? line with
    | none => (some .badEvent, engine)
    | some envelope => match handle envelope engine with
      | .ok batch engine => (some (.orders batch), engine)
      | .error f engine => (some (.fault f), engine)

/-- The replies to the lines of a peer. -/
def serve : List String → Engine → List Reply × Engine
  | [], engine => ([], engine)
  | line :: rest, engine =>
    let (answer, engine) := engine.reply line
    let (replies, engine) := engine.serve rest
    (answer.toList ++ replies, engine)

end Engine
end ZMachine
