import ZMachine.Fault

/-!
# The system a command runs on

A command reads and writes files, reads lines and prints.  `System m` says how that is done in the
monad `m`: with real files, or in a world that is itself a value.  Where the system refuses, it
gives its reason in its own words.

A `Failure` ends a command: what could not be done, and why, the nearest cause first.
-/

namespace ZMachine.Command

/-- What comes back when a line is asked for. -/
inductive Input where
  | line (text : String)
  /-- There are no more lines. -/
  | closed
  /-- The next line is not text. -/
  | malformed
deriving DecidableEq, Repr, Inhabited

/-- The means of a command. -/
structure System (m : Type → Type) where
  readFile : (path : String) → m (Except String (List UInt8))
  writeFile : (path : String) → (data : List UInt8) → m (Except String Unit)
  /-- Asks for a line.  The prompt is for a person who types. -/
  readLine : (prompt : String) → m Input
  print : String → m Unit
  /-- Prints beside the output, where complaints go. -/
  complain : String → m Unit

/-- Why a command could not be completed. -/
structure Failure where
  message : String
  causes : List String := []
  /-- The exit code of the command. -/
  code : UInt8 := 1
deriving DecidableEq, Repr, Inhabited

namespace Failure

def ofFault (f : Fault) : Failure :=
  match f.chain with
  | message :: causes => { message, causes }
  | [] => { message := "" }

/-- A text whose lines after the first one are indented. -/
def indentRest (margin text : String) : String :=
  ("\n" ++ margin).intercalate (text.splitOn "\n")

/-- The causes, indented; if there are several, each with its number. -/
def causeLines (causes : List String) : List String :=
  match causes with
  | [cause] => ["    " ++ indentRest "    " cause]
  | causes => causes.zipIdx.map fun (cause, i) =>
    let number := toString i
    "".pushn ' ' (5 - number.length) ++ number ++ ": " ++ indentRest "       " cause

def report (f : Failure) : String :=
  let causes := if f.causes.isEmpty then ""
    else "\n\nCaused by:\n" ++ "\n".intercalate (causeLines f.causes)
  "Error: " ++ f.message ++ causes ++ "\n"

/-- What is said of bytes that are not text. -/
def notText : String := "stream did not contain valid UTF-8"

/-- A line whose corrections would leave a part of a character. -/
def brokenLine : Failure where
  message := "a correction ends within a character"
  code := 101

/-- A log filter that cannot even be refused. -/
def brokenFilter : Failure where
  message := "a part of the log filter ends within a character"
  code := 101

end Failure
end ZMachine.Command
