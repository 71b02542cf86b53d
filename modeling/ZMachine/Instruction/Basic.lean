import ZMachine.Instruction.Opcode
import ZMachine.Variable

/-!
# Instructions

An instruction is an operation with its operands and, where the operation has them, the variable
its result goes to, the branch it may take and the address of its text.  It knows the address it
was read from and the address of the instruction after it.
-/

namespace ZMachine

/-- Where an operand's value comes from. -/
inductive Operand where
  | const (value : UInt16)
  | var (source : Variable)
deriving DecidableEq, Repr, Inhabited

inductive BranchTarget where
  | returnFalse
  | returnTrue
  | address (target : UInt32)
deriving DecidableEq, Repr, Inhabited

/-- A branch, taken when the condition equals `onTrue`. -/
structure Branch where
  onTrue : Bool
  target : BranchTarget
deriving DecidableEq, Repr, Inhabited

/-- One decoded instruction. -/
structure Instruction where
  address : UInt32
  /-- Address of the instruction after this one. -/
  next : UInt32
  opcode : Opcode
  operands : List Operand
  store : Option Variable
  branch : Option Branch
  /-- Address of the inline z-string. -/
  text : Option UInt32
deriving DecidableEq, Repr, Inhabited

end ZMachine
