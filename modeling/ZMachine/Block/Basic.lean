import ZMachine.Execution.Step

/-!
# Blocks

A block is a straight run of instructions, each starting where the one before it ends.  Only the
last one can leave the straight line; the run also ends before bytes that are no instruction, which
matters only if execution gets there, and after `maxLength` instructions.

    execute = for each instruction in turn: set the pc to the next one, then step
-/

namespace ZMachine

/-- Instructions to be executed in turn. -/
structure Block where
  /-- Address of the first instruction. -/
  pc : UInt32
  name : Option String
  instructions : List Instruction
deriving DecidableEq, Repr, Inhabited

namespace Block

def maxLength : Nat := 64

/-! ## Forming a block -/

/-- An instruction and the ones after it on the straight line, at most `more` of them. -/
def straightLine (m : Memory) : (more : Nat) → Instruction → List Instruction
  | 0, i => [i]
  | more + 1, i =>
    if i.opcode.endsUnit then [i]
    else match Instruction.decode m i.next with
      | .ok next => i :: straightLine m more next
      | .error _ => [i]

/-- The name of the block that starts with an operation at an address. -/
def title (opcode : Opcode) (pc : UInt32) : String :=
  opcode.mnemonic ++ "@" ++ Numeral.hex 5 pc.toNat

/-- The block that starts at an address.  There is none when no instruction starts there. -/
def compile (m : Memory) (pc : UInt32) : Except Fault Block :=
  match Instruction.decode m pc with
  | .ok first => .ok ⟨pc, some (title first.opcode pc), straightLine m (maxLength - 1) first⟩
  | .error reason => .error (.compile pc reason)

/-- A block as messages name it. -/
def label (b : Block) : String :=
  match b.name with
  | some name => s!"{name} ({Numeral.address b.pc.toNat})"
  | none => s!"unit {Numeral.address b.pc.toNat}"

/-- A block as it is shown when its parts are inspected. -/
def inspect (b : Block) : String :=
  let name := match b.name with
    | some name => "Some(\"" ++ name ++ "\")"
    | none => "None"
  s!"CompiledUnit \x7b pc: {Numeral.address b.pc.toNat}, name: {name}, .. \x7d"

/-! ## Execution -/

/-- Executes instructions in turn. -/
def executeAll (config : Config) : List Instruction → Exec Unit
  | [] => return
  | i :: rest => do
    Context.jump i.next
    i.step config
    executeAll config rest

def execute (config : Config) (b : Block) : Exec Unit :=
  executeAll config b.instructions

end Block
end ZMachine
