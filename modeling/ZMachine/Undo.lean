import ZMachine.Snapshot.Basic

/-!
# Undo history

The newest checkpoints of a story, at most `depth` of them, and the depth is at least one.  When the
history is full, the oldest makes way for a new one.

    pop (push p u) = (p, u)      unless u is full
-/

namespace ZMachine

/-- Checkpoints, the newest first. -/
structure Undo where
  entries : List Snapshot := []
  /-- How many checkpoints are kept. -/
  depth : Nat
deriving DecidableEq

namespace Undo

/-- A history without checkpoints; the depth is at least one. -/
def ofDepth (depth : Nat) : Undo where
  depth := max 1 depth

def length (u : Undo) : Nat :=
  u.entries.length

/-- Changes how many checkpoints are kept; the oldest are dropped. -/
def setDepth (depth : Nat) (u : Undo) : Undo where
  entries := u.entries.take (max 1 depth)
  depth := max 1 depth

/-- Adds a checkpoint; the oldest is dropped if the history is full. -/
def push (p : Snapshot) (u : Undo) : Undo :=
  { u with entries := p :: if u.length = u.depth then u.entries.dropLast else u.entries }

/-- Takes the newest checkpoint. -/
def pop (u : Undo) : Option (Snapshot × Undo) :=
  match u.entries with
  | [] => none
  | p :: rest => some (p, { u with entries := rest })

def clear (u : Undo) : Undo :=
  { u with entries := [] }

end Undo
end ZMachine
