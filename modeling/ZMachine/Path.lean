import ZMachine.Text.Extent

/-!
# Paths

Paths are texts whose parts are separated by slashes.  A save file is named after its story: the
name of the story file without its extension, freed of the characters that file names should not
have, so that it never leaves the folder it is put in.

    saveFile "games/a:b.z5" "saves" = "saves/ab.zsav"
-/

namespace ZMachine.Path

/-- The parts of a path between the slashes, empty ones left out. -/
def parts (path : String) : List String :=
  (path.splitOn "/").filter (· ≠ "")

/-- Whether a path steps up to a parent folder. -/
def stepsUp (path : String) : Bool :=
  (parts path).contains ".."

def fileName (path : String) : Option String :=
  match ((parts path).filter (· ≠ ".")).getLast? with
  | some ".." => none
  | name => name

/-- A file name up to its last dot.  A dot at the start does not begin an extension. -/
def withoutExtension (name : String) : String :=
  match name.toList.reverse.span (· ≠ '.') with
  | (_, []) => name
  | (_, _ :: before) => if before.isEmpty then name else .ofList before.reverse

def join (folder name : String) : String :=
  if folder.isEmpty ∨ folder.toList.getLast? = some '/' then folder ++ name
  else folder ++ "/" ++ name

/-- The longest path that can be followed, in bytes. -/
def maxPathBytes : Nat := 4095

/-! ## Safe names -/

/-- The characters that a file name should not have. -/
def isUnsafeMark (c : Char) : Bool :=
  "/?<>\\:*|\"".toList.contains c

def isControl (c : Char) : Bool :=
  c.toNat < 0x20 || (0x80 ≤ c.toNat && c.toNat < 0xA0)

/-- The longest file name, in bytes. -/
def maxNameBytes : Nat := 255

/-- A file name without unsafe characters.  Nothing is left of a name made of dots. -/
def safeName (name : String) : String :=
  let chars := name.toList.filter fun c => !isUnsafeMark c && !isControl c
  let chars := if chars.all (· == '.') then [] else chars
  .ofList (Text.takeBytes maxNameBytes chars)

def saveFile (story folder : String) : String :=
  let stem := ((fileName story).map withoutExtension).getD "story"
  join folder (safeName stem ++ ".zsav")

end ZMachine.Path
