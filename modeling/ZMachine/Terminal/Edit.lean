import ZMachine.Text.Cluster
import ZMachine.Text.Extent

/-!
# Corrections in a line

A line that does not come from a keyboard may hold backspaces, each of which takes back the cluster
before it.  The sizes of the clusters are kept in one byte each, so of a cluster that is larger only
the remainder is taken back.
-/

namespace ZMachine.Terminal

/-- The backspace, alone in its cluster. -/
def backspace : List Char := ['\x08']

/-- The bytes that a cluster is counted for. -/
def countedBytes (cluster : List Char) : Nat :=
  Text.byteLength cluster % 256

/-- Applies the backspaces among the clusters that are left.  `kept` is the text so far, its last
character first, and `sizes` holds what its clusters are counted for, the last one first. -/
def correctFrom (kept : List Char) (sizes : List Nat) : List (List Char) → Option (List Char)
  | [] => some kept
  | cluster :: rest =>
    if cluster = backspace then
      match sizes with
      | size :: sizes =>
        match Text.dropBytes? size kept with
        | some kept => correctFrom kept sizes rest
        | none => none
      | [] => correctFrom kept [] rest
    else correctFrom (cluster.reverse ++ kept) (countedBytes cluster :: sizes) rest

/-- A line after its corrections; `none` when one would leave a part of a character. -/
def correct (line : String) : Option String :=
  (correctFrom [] [] (Text.clusters line.toList)).map fun kept => .ofList kept.reverse

end ZMachine.Terminal
