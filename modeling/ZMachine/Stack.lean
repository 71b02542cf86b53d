import ZMachine.Fault

/-!
# Value stack and routine frames

All routines share one stack of values.  A frame remembers how high the stack was when its routine
was entered; the values below belong to the callers and cannot be popped.  Leaving a routine drops
whatever it left on the stack.

    pop s = .error .stackUnderflow     when s.values.size ≤ s.floor
    the size is at most maxValues, the number of frames at most maxFrames, through every push
-/

namespace ZMachine

/-- A running routine. -/
structure Frame where
  /-- Where execution goes on when the routine returns. -/
  returnPc : UInt32
  /-- Where the routine's value goes. -/
  storer : Option Variable
  locals : List UInt16
  /-- Number of arguments of the call. -/
  argCount : UInt8
  /-- Height of the value stack when the routine was entered. -/
  stackBase : Nat
deriving DecidableEq, Repr, Inhabited

/-- The value stack, its top last, and the frames, the running routine first. -/
structure Stack where
  values : Array UInt16 := #[]
  frames : List Frame := []
deriving DecidableEq, Inhabited

abbrev StackM := EStateM Fault Stack

namespace Stack

def maxValues : Nat := 0xFFFF

/-- The most routines that can be running. -/
def maxFrames : Nat := 1024

/-- The most locals a routine can have. -/
def maxLocals : Nat := 15

/-- The height below which the values belong to callers. -/
def floor (s : Stack) : Nat :=
  match s.frames with
  | f :: _ => f.stackBase
  | [] => 0

/-- The number of running routines. -/
def depth (s : Stack) : Nat :=
  s.frames.length

/-! ## Values -/

def push (value : UInt16) : StackM Unit := fun s =>
  if s.values.size < maxValues then .ok () { s with values := s.values.push value }
  else .error .stackOverflow s

/-- The value on top, which stays. -/
def peek : StackM UInt16 := fun s =>
  if s.values.size ≤ s.floor then .error .stackUnderflow s
  else match s.values.back? with
    | some v => .ok v s
    | none => .error .stackUnderflow s

/-- Takes the value from the top. -/
def pop : StackM UInt16 := fun s =>
  if s.values.size ≤ s.floor then .error .stackUnderflow s
  else match s.values.back? with
    | some v => .ok v { s with values := s.values.pop }
    | none => .error .stackUnderflow s

def replaceTop (value : UInt16) : StackM Unit := fun s =>
  if s.values.size ≤ s.floor then .error .stackUnderflow s
  else .ok () { s with values := s.values.setIfInBounds (s.values.size - 1) value }

/-! ## Locals -/

/-- The value of a local, counted from 0. -/
def getLocal (index : UInt8) : StackM UInt16 := fun s =>
  match s.frames with
  | [] => .error .noFrame s
  | f :: _ => match f.locals[index.toNat]? with
    | some v => .ok v s
    | none => .error (.badVariable (index + 1)) s

/-- Sets a local, counted from 0. -/
def setLocal (index : UInt8) (value : UInt16) : StackM Unit := fun s =>
  match s.frames with
  | [] => .error .noFrame s
  | f :: rest =>
    if index.toNat < f.locals.length then
      .ok () { s with frames := { f with locals := f.locals.set index.toNat value } :: rest }
    else .error (.badVariable (index + 1)) s

/-! ## Frames -/

def pushFrame (f : Frame) : StackM Unit := fun s =>
  if s.frames.length < maxFrames then .ok () { s with frames := f :: s.frames }
  else .error .frameOverflow s

/-- Leaves the running routine and drops what it left on the stack. -/
def popFrame : StackM Frame := fun s =>
  match s.frames with
  | [] => .error .noFrame s
  | f :: rest => .ok f { values := s.values.shrink f.stackBase, frames := rest }

/-- Leaves `count` routines, the running one first. -/
def popFrames : (count : Nat) → StackM Unit
  | 0 => return
  | count + 1 => do
    let _ ← popFrame
    popFrames count

end Stack
end ZMachine
