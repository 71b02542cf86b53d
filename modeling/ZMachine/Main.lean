import ZMachine.Command.Run

/-!
# The program

The system of the machine this runs on, with real files and streams, and the command on it.  All
decisions are made by `Command.System.run`; here bytes are only moved.
-/

namespace ZMachine.Main

open Command

/-- The reason of a refusal, in the words of the system. -/
def reason : IO.Error → String
  | .noFileOrDirectory _ code details | .interrupted _ code details
  | .alreadyExists _ code details | .invalidArgument _ code details
  | .permissionDenied _ code details | .resourceExhausted _ code details
  | .inappropriateType _ code details | .noSuchThing _ code details
  | .otherError code details | .resourceBusy code details | .resourceVanished code details
  | .unsupportedOperation code details | .hardwareFault code details
  | .unsatisfiedConstraints code details | .illegalOperation code details
  | .protocolError code details | .timeExpired code details =>
    s!"{details} (os error {code})"
  | e => toString e

def readFile (path : String) : IO ByteArray := do
  (← IO.FS.Handle.mk path .read).readBinToEnd

/-- The bytes up to the next line feed, after those read so far. -/
partial def lineBytes (input : IO.FS.Stream) (line : ByteArray) : IO ByteArray := do
  let next ← input.read 1
  if next.isEmpty then return line
  else if next.toList.contains 0x0A then return line ++ next
  else lineBytes input (line ++ next)

def readLine (input : IO.FS.Stream) : IO Input := do
  match Text.lines (← lineBytes input .empty).toList with
  | [] => return .closed
  | some text :: _ => return .line text
  | none :: _ => return .malformed

/-- Prints at once. -/
def put (output : IO.FS.Stream) (text : String) : IO Unit := do
  output.putStr text
  output.flush

def system : System IO where
  readFile path := do
    match ← (Main.readFile path).toBaseIO with
    | .ok data => return .ok data.toList
    | .error e => return .error (reason e)
  writeFile path data := do
    match ← (IO.FS.writeBinFile path ⟨data.toArray⟩).toBaseIO with
    | .ok _ => return .ok ()
    | .error e => return .error (reason e)
  readLine prompt := do
    let input ← IO.getStdin
    if ← input.isTty then put (← IO.getStdout) prompt
    readLine input
  print text := do put (← IO.getStdout) text
  complain text := do put (← IO.getStderr) text

/-- The variables around this program. -/
def environment : IO Environment := do
  return { trace := ← IO.getEnv "ZVM_TRACE", log := ← IO.getEnv "RUST_LOG" }

/-- A supply of seeds that nobody can foretell. -/
def entropy : IO Entropy := do
  let bytes ← IO.getRandomBytes 8
  return ⟨bytes.toList.foldl (fun n b => n * 256 + b.toUInt64) 0⟩

/-- More turns than anyone will play. -/
def turns : Nat := 0x1000000000000000

end ZMachine.Main

def main (words : List String) : IO UInt32 := do
  let env ← ZMachine.Main.environment
  let entropy ← ZMachine.Main.entropy
  let code ← ZMachine.Main.system.run env entropy ZMachine.Main.turns words
  return code.toUInt32
