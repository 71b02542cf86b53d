import ZMachine.Command.Run

/-!
# A world for commands

A world is a system that is a value: a folder with files in it, lines that are waiting to be read,
and what was printed so far.  A path leads from the folder through parts that are folders to a file
or a folder.  There are no other files, and nothing is asked of a person, so prompts are dropped.

    run words w = (exit code, the world after the command)
-/

namespace ZMachine.Command

/-- A folder with files, and a place for input and output. -/
structure World where
  /-- The files, each under the parts of its path. -/
  files : List (List String × List UInt8) := []
  /-- The lines that were not read yet; one that is not text is `none`. -/
  input : List (Option String) := []
  output : String := ""
  complaints : String := ""
deriving Inhabited

namespace World

/-! ## Refusals -/

def noSuchFile : String := "No such file or directory (os error 2)"
def notAFolder : String := "Not a directory (os error 20)"
def isAFolder : String := "Is a directory (os error 21)"
def nameTooLong : String := "File name too long (os error 36)"

/-! ## Files -/

/-- The parts of a path that lead somewhere. -/
def steps (path : String) : List String :=
  (Path.parts path).filter (· ≠ ".")

/-- Whether a path can only name a folder. -/
def namesFolder (path : String) : Bool :=
  match (path.splitOn "/").getLast? with
  | some last => last = "" ∨ last = "."
  | none => true

/-- What is at a place. -/
inductive Node where
  | file (data : List UInt8)
  | folder
deriving DecidableEq, Repr

/-- What is at a place, which is given by its steps. -/
def at? (w : World) (place : List String) : Option Node :=
  match w.files.lookup place with
  | some data => some (.file data)
  | none =>
    if place.isEmpty ∨ w.files.any (fun (name, _) => place.isPrefixOf name) then some .folder
    else none

/-- Where a path leads: a place and what is there, if anything. -/
def follow (w : World) (folderWanted : Bool) (place : List String) :
    List String → Except String (List String × Option Node)
  | [] => .ok (place, w.at? place)
  | step :: rest =>
    if Path.maxNameBytes < step.utf8ByteSize then .error nameTooLong
    else
      let place := place ++ [step]
      match w.at? place with
      | some .folder => follow w folderWanted place rest
      | some (.file data) =>
        if rest.isEmpty ∧ !folderWanted then .ok (place, some (.file data)) else .error notAFolder
      | none => if rest.isEmpty then .ok (place, none) else .error noSuchFile

/-- Where a path leads from the folder.  Of places outside only the root is known. -/
def find (w : World) (path : String) : Except String (List String × Option Node) :=
  if path.isEmpty then .error noSuchFile
  else if Path.maxPathBytes < path.utf8ByteSize then .error nameTooLong
  else if path.startsWith "/" then
    if (steps path).isEmpty then .ok ([], some .folder) else .error noSuchFile
  else w.follow (namesFolder path) [] (steps path)

def readFile (path : String) (w : World) : Except String (List UInt8) :=
  match w.find path with
  | .ok (_, some (.file data)) => .ok data
  | .ok (_, some .folder) => .error isAFolder
  | .ok (_, none) => .error noSuchFile
  | .error reason => .error reason

/-- The files with new contents in one of them. -/
def replaceFile (place : List String) (data : List UInt8) (w : World) : World :=
  { w with files := (place, data) :: w.files.filter (·.1 ≠ place) }

/-- Writes a file; it may be new, but not its folder. -/
def writeFile (path : String) (data : List UInt8) (w : World) : Except String Unit × World :=
  match w.find path with
  | .ok (place, some (.file _)) => (.ok (), w.replaceFile place data)
  | .ok (_, some .folder) => (.error isAFolder, w)
  | .ok (place, none) =>
    if namesFolder path then (.error isAFolder, w) else (.ok (), w.replaceFile place data)
  | .error reason => (.error reason, w)

/-! ## Lines -/

def readLine (w : World) : Input × World :=
  match w.input with
  | some text :: rest => (.line text, { w with input := rest })
  | none :: rest => (.malformed, { w with input := rest })
  | [] => (.closed, w)

/-! ## Running -/

def system : System (StateM World) where
  readFile path := fun w => (w.readFile path, w)
  writeFile path data := writeFile path data
  readLine _ := readLine
  print text := modify fun w => { w with output := w.output ++ text }
  complain text := modify fun w => { w with complaints := w.complaints ++ text }

/-- A folder with files at the given paths, and bytes as input. -/
def ofFiles (files : List (String × List UInt8)) (input : List UInt8) : World where
  files := files.map fun (path, data) => (steps path, data)
  input := Text.lines input

def pathOf (place : List String) : String :=
  "/".intercalate place

/-- The files of a world that another one does not have. -/
def newFiles (before after : World) : List (String × List UInt8) :=
  (after.files.filter fun (place, _) => (before.files.lookup place).isNone).map
    fun (place, data) => (pathOf place, data)

def run (env : Environment) (entropy : Entropy) (turns : Nat) (words : List String) (w : World) :
    UInt8 × World :=
  (system.run env entropy turns words).run w

/-- The settings that a command line makes; the outer failure is a refusal. -/
def configFor (words : List String) (w : World) : Except Refusal (Except Failure Config) := do
  let arguments ← Arguments.parse words
  return ((system.config arguments.overrides).run w).1

end World
end ZMachine.Command
