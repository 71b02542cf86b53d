import ZMachine.Instruction.Decode
import ZMachine.Numeral

/-!
# Faults

A fault is the reason why an action could not be completed.  It is a cause, not a text: `message`
gives the wording, and `chain` the wording part by part, the outermost context first.

    message f = the parts of chain f, joined by ": "

`name` sorts the faults a host may want to tell apart; `isInitialization` marks those that come
up while the header is read, before anything was replaced.
-/

namespace ZMachine

inductive Section where
  | header
  | memory
  | stack
  | streams
deriving DecidableEq, Repr

def Section.tag : Section → String
  | .header => "IFHD"
  | .memory => "CMEM"
  | .stack => "STKS"
  | .streams => "OSTR"

inductive SaveFault where
  | imageSize
  | tooSmall
  | badMagic
  | unsupportedFormat (version readable : UInt16)
  | endsIn (field : String)
  | overrun
  | duplicate (s : Section)
  | missing (s : Section)
  | headerLength (n : Nat)
  | truncatedRun
  | expandsPastStory
  | unreadable (s : Section)
deriving DecidableEq, Repr

/-- Why an action could not be completed. -/
inductive Fault where
  | outOfRange (access : OutOfRange)
  | unsupportedVersion (version : UInt8)
  | noStory
  | notStarted
  | halted
  | compile (address : UInt32) (reason : Undecodable)
  | stackOverflow
  | stackUnderflow
  | frameOverflow
  | noFrame
  | divisionByZero (address : UInt32)
  | badVariable (number : UInt8)
  | missingOperands (opcode : Opcode) (address : UInt32) (needed got : Nat)
  | tooManyLocals (address : Nat) (count : Nat)
  | staleFrame (cookie depth : Nat)
  | streamNesting (limit : Nat)
  | noSuchProperty (object number : UInt16)
  | nestedAbbreviation (address : Nat)
  | endlessChain (object : UInt16)
  | foreignSnapshot
  | snapshotSize (snapshot story : Nat)
  | save (reason : SaveFault)
  /-- A fault raised while the named unit at `address` was running. -/
  | executing (unitName : String) (cause : Fault)
deriving DecidableEq, Repr

instance : MonadLift (Except OutOfRange) (Except Fault) where
  monadLift
    | .ok a => .ok a
    | .error e => .error (.outOfRange e)

/-! ## Wording -/

/-- The wording of an access outside the memory. -/
def OutOfRange.message (e : OutOfRange) : String :=
  s!"memory access out of range: {e.length} byte(s) at {Numeral.address e.address}"
    ++ s!" (image size {Numeral.address e.size})"

/-- Why the bytes are not an instruction. -/
def Undecodable.message : Undecodable → String
  | .outOfRange e => e.message
  | .unsupported cls number first =>
    s!"unsupported opcode {cls.name} #{number} (first byte 0x{Numeral.hex 2 first.toNat})"

/-- The wording of a defect in a save container. -/
def SaveFault.message : SaveFault → String
  | .imageSize => "memory image does not match the story size"
  | .tooSmall => "save data too small"
  | .badMagic => "invalid save magic"
  | .unsupportedFormat version readable =>
    s!"unsupported save format {version} (reader supports <= {readable})"
  | .endsIn field => s!"unexpected end of input while reading {field}"
  | .overrun => "section overruns save data"
  | .duplicate s => s!"duplicate {s.tag} section"
  | .missing s => s!"missing {s.tag} section"
  | .headerLength n => s!"{Section.header.tag} section has {n} bytes"
  | .truncatedRun => s!"truncated zero run in {Section.memory.tag}"
  | .expandsPastStory => s!"{Section.memory.tag} expands past the story size"
  | .unreadable s => s!"decoding {s.tag} section"

namespace Fault

/-- The wording of a fault, its context and its causes one by one. -/
def chain : Fault → List String
  | outOfRange e => [e.message]
  | unsupportedVersion v => [s!"unsupported Z-machine version: {v}"]
  | noStory => ["no story file has been loaded"]
  | notStarted => ["the machine has not been started"]
  | halted => ["the machine has halted"]
  | compile a reason => [s!"cannot compile code at {Numeral.address a.toNat}: " ++ reason.message]
  | stackOverflow => ["value stack overflow"]
  | stackUnderflow => ["value stack underflow"]
  | frameOverflow => ["call stack overflow"]
  | noFrame => ["return or local access with no active routine"]
  | divisionByZero a => [s!"division by zero at {Numeral.address a.toNat}"]
  | badVariable n => [s!"reference to missing local variable {n}"]
  | missingOperands op a needed got =>
    [s!"{op.mnemonic} at {Numeral.address a.toNat} needs {needed} operand(s), got {got}"]
  | tooManyLocals a count => [s!"routine at {Numeral.address a} declares {count} locals"]
  | staleFrame cookie depth => [s!"throw to stale frame {cookie} (depth {depth})"]
  | streamNesting limit => [s!"output stream 3 nested more than {limit} deep"]
  | noSuchProperty object number => [s!"put_prop: object {object} has no property {number}"]
  | nestedAbbreviation a => [s!"nested abbreviation in string at {Numeral.address a}"]
  | endlessChain object => [s!"the sibling chain never reaches object {object}"]
  | foreignSnapshot => ["snapshot belongs to a different story"]
  | snapshotSize snapshot story => [s!"snapshot memory is {snapshot} bytes, story has {story}"]
  | save reason => [reason.message]
  | executing unitName cause => s!"while executing {unitName}" :: chain cause

def message (f : Fault) : String :=
  ": ".intercalate f.chain

/-- The cause below all contexts. -/
def cause : Fault → Fault
  | executing _ inner => cause inner
  | f => f

/-- Whether the fault came up while the header was read. -/
def isInitialization : Fault → Bool
  | unsupportedVersion _ | noStory => true
  | _ => false

/-- The kinds of fault that a host can tell apart. -/
inductive Kind where
  | memory
  | machine (name : String)
  | other
deriving DecidableEq, Repr

/-- The kind of a fault, by its cause. -/
def kind (f : Fault) : Kind :=
  match f.cause with
  | outOfRange _ => .memory
  | unsupportedVersion _ => .machine "UnsupportedVersion"
  | noStory => .machine "NoStory"
  | notStarted => .machine "NotStarted"
  | halted => .machine "Halted"
  | compile _ _ => .machine "Compile"
  | stackOverflow => .machine "StackOverflow"
  | stackUnderflow => .machine "StackUnderflow"
  | frameOverflow => .machine "FrameOverflow"
  | noFrame => .machine "NoFrame"
  | divisionByZero _ => .machine "DivisionByZero"
  | badVariable _ => .machine "BadVariable"
  | _ => .other

end Fault
end ZMachine
