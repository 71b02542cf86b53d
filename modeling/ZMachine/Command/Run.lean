import ZMachine.Command.Help
import ZMachine.Command.System
import ZMachine.Journal.Filter
import ZMachine.Terminal.Edit
import ZMachine.Terminal.Session
import ZMachine.Toml.Settings
import ZMachine.Wire.Header

/-!
# Running a command

`run` does what a command line asks for on a system and answers the exit code:

    0      it was done
    1      it failed, and the failure was reported
    2      the command line was not understood
    101    a line or a log filter was cut within a character

Settings are read before the story.  A story is played or served until the player or the peer
leaves, or until a number of turns is used up.  At the end the log is written: the kinds of records
that the filter allows.
-/

namespace ZMachine.Command

variable {m : Type → Type} [Monad m]

/-! ## Settings and story -/

/-- Reads a file, for which there is a message should that fail. -/
def System.need (sys : System m) (message path : String) : ExceptT Failure m (List UInt8) := do
  match ← sys.readFile path with
  | .ok data => return data
  | .error reason => throw { message, causes := [reason] }

def System.configFile (sys : System m) (path : String) : ExceptT Failure m Config := do
  let unread := s!"Failed to read config '{path}'"
  let data ← sys.need unread path
  match Text.ofBytes? data with
  | none => throw { message := unread, causes := [Failure.notText] }
  | some text => match Config.ofToml text with
    | .ok c => return c
    | .error p => throw { message := s!"Invalid config '{path}'", causes := [p.report text] }

/-- Settings changed by those of the command line. -/
def Overrides.apply (o : Overrides) (c : Config) : Config :=
  { c with
    width := o.width.getD c.width
    timed := c.timed || o.timed
    securityOverride := c.securityOverride || o.securityOverride }

def System.config (sys : System m) (o : Overrides) : ExceptT Failure m Config := do
  match o.config with
  | some path => return o.apply (← sys.configFile path)
  | none => return o.apply {}

def System.story (sys : System m) (path : String) : ExceptT Failure m (List UInt8) :=
  sys.need s!"Failed to read story '{path}'" path

/-! ## The jobs -/

/-- How a job ended, and what was noted on the way. -/
structure Ending where
  failure : Option Failure := none
  journal : Journal := []

def System.serve (sys : System m) : (turns : Nat) → Engine → m Ending
  | 0, engine => return { journal := engine.journal }
  | turns + 1, engine => do
    match ← sys.readLine "" with
    | .closed => return { journal := engine.journal }
    | .malformed => return ⟨some { message := Failure.notText }, engine.journal⟩
    | .line text =>
      let (reply, engine) := engine.reply text
      match reply with
      | some reply => sys.print (reply.toJson.compact ++ "\n")
      | none => pure ()
      serve sys turns engine

section
open Terminal

def System.show (sys : System m) (s : Session) : m Session := do
  sys.print (screen s.transcript)
  return { s with transcript := [] }

/-- Finds out what a session waits for. -/
def System.answer (sys : System m) (saveFile prompt : String) (control : Order) :
    m (Except Failure Answer) := do
  match control with
  | .read .. | .char .. =>
    match ← sys.readLine prompt with
    | .line text => match correct text with
      | some text => return .ok (.line (some text))
      | none => return .error .brokenLine
    | .closed => return .ok (.line none)
    | .malformed => return .error { message := Failure.notText, causes := [Failure.notText] }
  | .save data _ =>
    match ← sys.writeFile saveFile data with
    | .ok _ => return .ok (.written true)
    | .error reason =>
      sys.complain s!"Error: Failed to write save file '{saveFile}': {reason}\n"
      return .ok (.written false)
  | .restore _ =>
    match ← sys.readFile saveFile with
    | .ok data => return .ok (.contents (some data))
    | .error reason =>
      sys.complain s!"Error: cannot read '{saveFile}': {reason}\n"
      return .ok (.contents none)
  | _ => return .ok .none

/-- Notes that a line is going to be read, if one is. -/
def awaitLine (control : Order) (s : Session) : Session :=
  match control with
  | .read .. | .char .. =>
    { s with engine := { s.engine with journal := s.engine.journal.note .lineAwaited } }
  | _ => s

def System.play (sys : System m) (saveFile : String) : (turns : Nat) → Stand × Session → m Ending
  | 0, (_, s) => return { journal := s.engine.journal }
  | turns + 1, (stand, s) => do
    let prompt := (prompts s.transcript).getLastD ""
    let s ← sys.show s
    match stand with
    | .over => return { journal := s.engine.journal }
    | .failed f => return ⟨some (.ofFault f), s.engine.journal⟩
    | .waiting control =>
      let s := awaitLine control s
      match ← sys.answer saveFile prompt control with
      | .ok answer => play sys saveFile turns (s.advance control answer)
      | .error failure => return ⟨some failure, s.engine.journal⟩

end

def System.perform (sys : System m) (entropy : Entropy) (turns : Nat) (a : Arguments) :
    ExceptT Failure m Ending := do
  match a.job with
  | .none => throw { message := "no story given; try `zvm run STORY`" }
  | .info path =>
    let data ← sys.story path
    match Header.parse (.ofList data) with
    | .ok h => sys.print (h.toJson.pretty ++ "\n")
    | .error f => throw (.ofFault f)
    return {}
  | .serve path =>
    let config ← sys.config a.overrides
    sys.serve turns (.ofStory config entropy (← sys.story path))
  | .run path folder =>
    let config ← sys.config a.overrides
    let engine := Engine.ofStory config entropy (← sys.story path)
    sys.play (Path.saveFile path folder) turns (Terminal.Session.start engine)

/-! ## The log -/

/-- The record that a level and a target make. -/
def recordLine (r : Record) : String :=
  (Filter.levelNames.getD r.level.rank "").toUpper ++ " " ++ r.target ++ "\n"

/-- Writes the kinds of records that a filter allows. -/
def System.log (sys : System m) (filter : Option Filter) (journal : Journal) : m Unit :=
  match filter with
  | some f => (journal.reverse.filter f.allows).forM fun r => sys.complain (recordLine r)
  | none => pure ()

/-! ## The whole command -/

/-- The variables around a command. -/
structure Environment where
  /-- The switch that turns the log on. -/
  trace : Option String := none
  /-- A filter for the log, should the switch not hold one. -/
  log : Option String := none
deriving DecidableEq, Repr, Inhabited

/-- Reports a failure, if there is one, and answers the exit code. -/
def System.close (sys : System m) (failure : Option Failure) : m UInt8 := do
  match failure with
  | some f =>
    sys.complain f.report
    return f.code
  | none => return 0

/-- Runs a command and answers its exit code. -/
def System.run (sys : System m) (env : Environment) (entropy : Entropy) (turns : Nat)
    (words : List String) : m UInt8 := do
  match Filter.ofVariables env.trace env.log with
  | .error _ => sys.close (some .brokenFilter)
  | .ok filter =>
    match Arguments.parse words with
    | .error .usage =>
      sys.complain usageReport
      return 2
    | .error (.help page) =>
      sys.print page.text
      return 0
    | .error .version =>
      sys.print versionLine
      return 0
    | .ok arguments =>
      match ← (sys.perform entropy turns arguments).run with
      | .ok ending =>
        sys.log filter ending.journal
        sys.close ending.failure
      | .error failure => sys.close (some failure)

end ZMachine.Command
