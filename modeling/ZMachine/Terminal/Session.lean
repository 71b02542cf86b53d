import ZMachine.Serve
import ZMachine.Text.Lines

/-!
# A terminal session

A session shows the main text and the status line of a story to a player and answers what the
story asks for.  Main text goes out line by line; what follows the last line break waits in
`pending` and becomes the prompt of the next line the player types.  The story prints a typed line
again, and the player has seen it already, so the first main text after a line loses it.

The transcript holds what the session let out, in order:

    text s      main text, whole lines except at the end of the session
    prompt s    the prompt of a line that was asked for
    status s    a status line that differs from the one before

No character of main text is lost, apart from the echo: each is in a text or in a prompt.

A session waits at a control order.  What comes back from outside, an `Answer`, makes the event
that goes on from there, and `advance` handles it.  As with the engine, the time slice is counted in
units, which are an argument of `advanceWithin`.
-/

namespace ZMachine.Terminal

/-- Something a session let out. -/
inductive Entry where
  | text (shown : String)
  | prompt (asked : String)
  | status (line : String)
deriving DecidableEq, Repr, Inhabited

/-- A story being played at a terminal. -/
structure Session where
  engine : Engine
  /-- Main text after the last line break. -/
  pending : List Char := []
  /-- The typed line that the story is about to print again. -/
  echo : Option (List Char) := none
  /-- The last status line. -/
  status : Option String := none
  /-- What was let out, the newest first. -/
  transcript : List Entry := []

inductive Stand where
  /-- It waits for the answer to a control order. -/
  | waiting (control : Order)
  | over
  | failed (f : Fault)
deriving Repr

/-- What comes back from outside. -/
inductive Answer where
  /-- Nothing was asked for. -/
  | none
  /-- A typed line; there is none once the player closes the input. -/
  | line (typed : Option String)
  /-- Whether the save file was written. -/
  | written (ok : Bool)
  /-- The contents of the save file, if it could be read. -/
  | contents (data : Option (List UInt8))
deriving DecidableEq, Repr, Inhabited

namespace Session

/-! ## Output -/

def emit (e : Entry) (s : Session) : Session :=
  { s with transcript := e :: s.transcript }

/-- Lets main text out if there is any. -/
def emitText (chars : List Char) (s : Session) : Session :=
  if chars.isEmpty then s else s.emit (.text (.ofList chars))

/-- Main text without the echo at its start. -/
def withoutEcho (echo : Option (List Char)) (chars : List Char) : List Char :=
  match echo with
  | some typed => (typed.isPrefixOf? chars).getD chars
  | none => chars

/-- Takes in main text and lets whole lines out. -/
def write (chars : List Char) (s : Session) : Session :=
  let (whole, rest) := Text.splitAfterBreak (s.pending ++ withoutEcho s.echo chars)
  { s with echo := none, pending := rest }.emitText whole

/-- Shows a status line unless it is the one shown last. -/
def showStatus (line : String) (s : Session) : Session :=
  if s.status = some line then s else { s with status := some line }.emit (.status line)

/-- Notes an order that a terminal does not render. -/
def passOver (s : Session) : Session :=
  { s with engine := { s.engine with journal := s.engine.journal.note .orderNotShown } }

/-- Shows an order that is output. -/
def showOrder (s : Session) : Order → Session
  | .stream .main text _ => s.write text.toList
  | .stream .status text _ => s.showStatus text
  | o => if o.isControl then s else s.passOver

def showAll (batch : List Order) (s : Session) : Session :=
  batch.foldl showOrder s

/-- Ends the session: the text that still waits is let out. -/
def finish (s : Session) : Session :=
  { s with pending := [] }.emitText s.pending

/-- Asks for a line: the text that waits is its prompt. -/
def ask (s : Session) : Session :=
  { s with pending := [] }.emit (.prompt (.ofList s.pending))

/-! ## Events and answers -/

def stopAt (control : Option Order) (s : Session) : Stand × Session :=
  match control with
  | none | some .quit => (.over, s.finish)
  | some (.read buffer parse length storer time routine) =>
    (.waiting (.read buffer parse length storer time routine), s.ask)
  | some (.char storer time routine) => (.waiting (.char storer time routine), s.ask)
  | some control => (.waiting control, s)

/-- Handles an event and shows the output up to the next control order; the story runs for as many
blocks as `units` says for the settings. -/
def turn (units : Config → Nat) (event : Event) (s : Session) : Stand × Session :=
  match Engine.handleWithin units { event } s.engine with
  | .error f engine => (.failed f, { s with engine })
  | .ok batch engine =>
    ({ s with engine }.showAll batch).stopAt (batch.find? Order.isControl)

/-- The key for a typed line: its first character. -/
def keyOf (typed : String) : Key :=
  match typed.toList with
  | c :: _ => .char c
  | [] => .enter

def saveResult (storer : Option Variable) (ok : Bool) : Option StoreResult :=
  storer.map fun storer => ⟨storer, if ok then 1 else 0⟩

/-- The event that answers a control order; there is none when the player leaves. -/
def eventOf : (control : Order) → Answer → Option Event
  | .read buffer parse length storer _ _, .line typed =>
    typed.map fun response =>
      .read { response, terminator := 13, buffer, parse, length, storer }
  | .char storer _ _, .line typed => typed.map fun t => .char (keyOf t) storer
  | .save _ storer, .written ok => some (.resume (saveResult storer ok))
  | .restore storer, .contents data => some (.restore data storer)
  | .restart, _ => some .restart
  | .tick, _ => some (.resume none)
  | _, _ => none

/-- A line typed for the story is going to be printed by it. -/
def expectEcho (event : Event) (s : Session) : Session :=
  match event with
  | .read input => { s with echo := some (input.response.toList ++ ['\n']) }
  | _ => s

/-- Goes on from a control order with what came back. -/
def advanceWithin (units : Config → Nat) (control : Order) (answer : Answer) (s : Session) :
    Stand × Session :=
  match eventOf control answer with
  | some event => (s.expectEcho event).turn units event
  | none => (.over, s.finish)

/-- Goes on within the time slice. -/
def advance : (control : Order) → Answer → Session → Stand × Session :=
  advanceWithin Config.sliceUnits

def startWithin (units : Config → Nat) (engine : Engine) : Stand × Session :=
  ({ engine } : Session).turn units .restart

def start : Engine → Stand × Session :=
  startWithin Config.sliceUnits

end Session

/-! ## The screen -/

/-- What an entry leaves on the screen.  A prompt is left to whoever reads the line. -/
def Entry.screen : Entry → String
  | text shown => shown
  | prompt _ => ""
  | status line => "[" ++ .ofList (Text.trimEnd line.toList) ++ "]\n"

/-- What a transcript, the newest entry first, leaves on the screen. -/
def screen (transcript : List Entry) : String :=
  (transcript.reverse.map Entry.screen).foldl (· ++ ·) ""

/-- The prompts of a transcript, the newest entry first. -/
def prompts (transcript : List Entry) : List String :=
  transcript.reverse.filterMap fun
    | .prompt asked => some asked
    | _ => none

end ZMachine.Terminal
