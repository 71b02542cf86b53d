/-!
# Settings of the host environment

`Config` is what the host tells about itself; the machine advertises it to the story through
the header.  A `Patch` replaces some of the settings and keeps the rest:

    (c.apply p).width = p.width.getD c.width            (and so for the other fields)
    (c.apply p).undoDepth = max 1 d                     when p.undoDepth = some d
-/

namespace ZMachine

/-- The host environment. -/
structure Config where
  /-- Screen width in characters. -/
  width : UInt8 := 80
  /-- Whether timed input is offered. -/
  timed : Bool := false
  /-- Whether revision 1.2 of the standard is claimed instead of 1.0. -/
  securityOverride : Bool := false
  /-- How many undo checkpoints are kept. -/
  undoDepth : Nat := 8
  /-- How long the story may run before it hands control back, in milliseconds. -/
  timeSliceMs : Nat := 5000
deriving DecidableEq, Repr, Inhabited

/-- New values for some of the settings. -/
structure Patch where
  width : Option UInt8 := none
  timed : Option Bool := none
  securityOverride : Option Bool := none
  undoDepth : Option Nat := none
  timeSliceMs : Option Nat := none
deriving DecidableEq, Repr, Inhabited

/-- How many units are run for one millisecond of the time slice. -/
def unitsPerMs : Nat := 100000

namespace Config

/-- The settings after a patch; an undo depth of zero becomes one. -/
def apply (c : Config) (p : Patch) : Config where
  width := p.width.getD c.width
  timed := p.timed.getD c.timed
  securityOverride := p.securityOverride.getD c.securityOverride
  undoDepth := (p.undoDepth.map (max 1)).getD c.undoDepth
  timeSliceMs := p.timeSliceMs.getD c.timeSliceMs

/-- The time slice as a number of units.  The slice is looked at after a unit has run, so even
an empty one lets a single unit run. -/
def sliceUnits (c : Config) : Nat :=
  max 1 (c.timeSliceMs * unitsPerMs)

end Config
end ZMachine
