import ZMachine.Terminal.Session

/-!
# Scripted sessions

A script stands for the player and the save file: it holds the lines that are going to be typed,
after which the input is closed, and what is in the file.  `playWithin` goes on until the session ends
or a number of turns is used up; more turns do not change an end that was reached.
-/

namespace ZMachine.Terminal

/-- A player and a save file. -/
structure Script where
  lines : List String
  /-- The contents of the save file, if there is one. -/
  file : Option (List UInt8) := none
  /-- Whether the save file can neither be read nor written. -/
  locked : Bool := false
deriving DecidableEq, Repr, Inhabited

namespace Script

def takeLine (k : Script) : Option String × Script :=
  match k.lines with
  | line :: rest => (some line, { k with lines := rest })
  | [] => (none, k)

/-- What comes back at a control order. -/
def answer (control : Order) (k : Script) : Answer × Script :=
  match control with
  | .read .. | .char .. =>
    let (line, k) := k.takeLine
    (.line line, k)
  | .save data _ =>
    if k.locked then (.written false, k) else (.written true, { k with file := some data })
  | .restore _ => (.contents (if k.locked then none else k.file), k)
  | _ => (.none, k)

end Script

/-- Plays on for at most a number of turns.  The time slice of a turn may depend on how many are
left after it. -/
def playWithin (slices : Nat → Config → Nat) :
    (turns : Nat) → Script → Stand × Session → Script × Stand × Session
  | turns + 1, k, (.waiting control, s) =>
    let (answer, k) := k.answer control
    playWithin slices turns k (s.advanceWithin (slices turns) control answer)
  | _, k, (stand, s) => (k, stand, s)

def playStoryWithin (slices : Nat → Config → Nat) (turns : Nat) (engine : Engine) (k : Script) :
    Script × Stand × Session :=
  playWithin slices turns k (Session.startWithin (slices turns) engine)

/-- Plays a story with the time slice of its settings. -/
def playStory : (turns : Nat) → Engine → Script → Script × Stand × Session :=
  playStoryWithin fun _ => Config.sliceUnits

end ZMachine.Terminal
