import ZMachine.Block.Basic
import ZMachine.Proofs.Execution.Course
import ZMachine.Proofs.Instruction.Extent

/-!
# Blocks and single steps

A block does what its instructions do one by one, each decoded where the one before it left the pc,
as long as none of them changes the bytes of a later one:

    execute b c = singleSteps (length b) c

The equation holds for whole results, so a fault is the same, comes up at the same instruction and
leaves the same context; and it holds for every number of first instructions of the block.
-/

namespace ZMachine

/-! ## Definitions -/

/-- Goes on after an instruction and executes it. -/
def Instruction.proceed (config : Config) (i : Instruction) : Exec Unit := do
  Context.jump i.next
  i.step config

namespace Context

/-- Decodes the instruction at the pc, goes on after it and executes it. -/
def singleStep (config : Config) : Exec Unit := do
  let s := (← get).machine
  match Instruction.decode s.memory s.pc with
  | .ok i => i.proceed config
  | .error reason => throw (.compile s.pc reason)

/-- That many single steps. -/
def singleSteps (config : Config) : Nat → Exec Unit
  | 0 => return
  | k + 1 => do
    singleStep config
    singleSteps config k

end Context

namespace Block

/-- Instructions that stand in a memory one after the other, from an address on. -/
def Line (m : Memory) : UInt32 → List Instruction → Prop
  | _, [] => True
  | pc, i :: rest => i.address = pc ∧ Instruction.decode m pc = .ok i ∧ Line m i.next rest

/-- A memory has the bytes of instructions as they are in `m`. -/
def Intact (m m' : Memory) (instructions : List Instruction) : Prop :=
  ∀ i ∈ instructions, Memory.Agree m m' i.address.toNat (Instruction.extent m i.address)

/-- Executed in turn from a context on, no instruction changes the bytes of a later one. -/
def Undisturbed (config : Config) (m : Memory) : List Instruction → Context → Prop
  | [], _ => True
  | i :: rest, c =>
    match i.proceed config c with
    | .ok _ c' => Intact m c'.machine.memory rest ∧ Undisturbed config m rest c'
    | .error _ _ => True

/-- Why a line of instructions goes no further: the last one leaves it, there is no room, or no
instruction follows. -/
def Complete (m : Memory) (instructions : List Instruction) : Prop :=
  instructions.length = maxLength ∨
    ∃ last ∈ instructions.getLast?,
      last.opcode.endsUnit = true ∨ ∃ reason, Instruction.decode m last.next = .error reason

/-! ## The line of a block -/

theorem straightLine_ne_nil (m : Memory) (more : Nat) (i : Instruction) :
    ∃ rest, straightLine m more i = i :: rest := by
  cases more with
  | zero => exact ⟨[], rfl⟩
  | succ more =>
    unfold straightLine
    split
    · exact ⟨[], rfl⟩
    · split
      · exact ⟨_, rfl⟩
      · exact ⟨[], rfl⟩

theorem straightLine_line {m : Memory} {pc : UInt32} {i : Instruction}
    (h : Instruction.decode m pc = .ok i) (more : Nat) : Line m pc (straightLine m more i) := by
  have haddress := (Instruction.decode_places h).1
  induction more generalizing pc i with
  | zero => exact ⟨haddress, h, trivial⟩
  | succ more ih =>
    unfold straightLine
    split
    · exact ⟨haddress, h, trivial⟩
    · split
      · next next hnext => exact ⟨haddress, h, ih hnext (Instruction.decode_places hnext).1⟩
      · exact ⟨haddress, h, trivial⟩

theorem length_straightLine (m : Memory) (more : Nat) (i : Instruction) :
    (straightLine m more i).length ≤ more + 1 := by
  induction more generalizing i with
  | zero => exact Nat.le_refl 1
  | succ more ih =>
    unfold straightLine
    split
    · simp
    · split
      · next next hnext =>
        have := ih next
        rw [List.length_cons]
        omega
      · simp

/-- Only the last instruction of a straight line can end a unit. -/
theorem straightLine_inner (m : Memory) (more : Nat) (i : Instruction) :
    ∀ j ∈ (straightLine m more i).dropLast, j.opcode.endsUnit = false := by
  induction more generalizing i with
  | zero =>
    intro j hj
    cases hj
  | succ more ih =>
    unfold straightLine
    split
    · intro j hj
      cases hj
    · next hends =>
      split
      · next next hnext =>
        obtain ⟨rest, hrest⟩ := straightLine_ne_nil m more next
        intro j hj
        rw [hrest, List.dropLast_cons_cons, ← hrest] at hj
        rcases List.mem_cons.1 hj with rfl | hj
        · simpa using hends
        · exact ih next j hj
      · intro j hj
        cases hj

/-- A straight line ends where it must. -/
theorem straightLine_complete (m : Memory) (more : Nat) (i : Instruction) :
    (straightLine m more i).length = more + 1 ∨
      ∃ last ∈ (straightLine m more i).getLast?,
        last.opcode.endsUnit = true ∨ ∃ reason, Instruction.decode m last.next = .error reason := by
  induction more generalizing i with
  | zero => exact .inl rfl
  | succ more ih =>
    unfold straightLine
    split
    · next hends => exact .inr ⟨i, rfl, .inl hends⟩
    · split
      · next next hnext =>
        obtain ⟨rest, hrest⟩ := straightLine_ne_nil m more next
        rcases ih next with hlength | ⟨last, hlast, hwhy⟩
        · left
          rw [List.length_cons, hlength]
        · right
          refine ⟨last, ?_, hwhy⟩
          rw [hrest, List.getLast?_cons_cons, ← hrest]
          exact hlast
      · next reason hnext => exact .inr ⟨i, rfl, .inr ⟨reason, hnext⟩⟩

theorem compile_eq_ok {m : Memory} {pc : UInt32} {b : Block} (h : compile m pc = .ok b) :
    b.pc = pc ∧ ∃ first, Instruction.decode m pc = .ok first ∧
      b.instructions = straightLine m (maxLength - 1) first := by
  unfold compile at h
  cases hfirst : Instruction.decode m pc with
  | error reason =>
    rw [hfirst] at h
    cases h
  | ok first =>
    rw [hfirst] at h
    cases h
    exact ⟨rfl, first, rfl, rfl⟩

end Block

/-! ## One instruction -/

theorem Instruction.proceed_run (config : Config) (i : Instruction) (c : Context) :
    i.proceed config c = i.step config { c with machine.pc := i.next } :=
  rfl

/-- An instruction that does not end a unit goes on after itself and asks for nothing, whether it
completes or fails. -/
theorem Instruction.proceed_course (config : Config) (i : Instruction)
    (h : i.opcode.endsUnit = false) (c : Context) :
    (endState (i.proceed config c)).machine.pc = i.next ∧
      (endState (i.proceed config c)).control = c.control := by
  have hcourse := i.step_keeps_course config h { c with machine.pc := i.next }
  rw [Instruction.proceed_run]
  exact ⟨congrArg (fun course => course.1.2) hcourse, congrArg Prod.snd hcourse⟩

theorem Context.singleStep_run (config : Config) {c : Context} {i : Instruction}
    (h : Instruction.decode c.machine.memory c.machine.pc = .ok i) :
    singleStep config c = i.proceed config c := by
  unfold singleStep
  rw [get_bind, h]

/-! ## All instructions -/

namespace Block

theorem executeAll_cons (config : Config) (i : Instruction) (rest : List Instruction) :
    executeAll config (i :: rest) = (do
      i.proceed config
      executeAll config rest) := by
  rw [Instruction.proceed, bind_assoc]
  rfl

/-- The last instruction has no later one to disturb. -/
theorem undisturbed_singleton (config : Config) (m : Memory) (i : Instruction) (c : Context) :
    Undisturbed config m [i] c := by
  unfold Undisturbed
  cases i.proceed config c with
  | ok a c' => exact ⟨fun j hj => absurd hj List.not_mem_nil, trivial⟩
  | error e c' => trivial

/-- Executing a line is stepping along it. -/
theorem executeAll_take (config : Config) (m : Memory) (instructions : List Instruction) :
    ∀ (pc : UInt32) (c : Context), Line m pc instructions →
      (∀ i ∈ instructions.dropLast, i.opcode.endsUnit = false) → c.machine.pc = pc →
      Intact m c.machine.memory instructions → Undisturbed config m instructions c →
      ∀ k ≤ instructions.length,
        executeAll config (instructions.take k) c = Context.singleSteps config k c := by
  induction instructions with
  | nil =>
    intro pc c _ _ _ _ _ k hk
    obtain rfl : k = 0 := by simpa using hk
    rfl
  | cons i rest ih =>
    intro pc c hline hinner hpc hintact hundisturbed k hk
    obtain ⟨haddress, hdecode, hrest⟩ := hline
    cases k with
    | zero => rfl
    | succ k =>
      have hbytes := hintact i (List.mem_cons_self ..)
      have hnow : Instruction.decode c.machine.memory c.machine.pc = .ok i := by
        rw [haddress] at hbytes
        rw [hpc]
        exact (Instruction.decode_agree hdecode hbytes).1
      rw [List.take_succ_cons, executeAll_cons]
      unfold Context.singleSteps
      unfold Undisturbed at hundisturbed
      cases hstep : i.proceed config c with
      | error e c' =>
        rw [bind_error hstep, bind_error ((Context.singleStep_run config hnow).trans hstep)]
      | ok a c' =>
        rw [bind_ok hstep, bind_ok ((Context.singleStep_run config hnow).trans hstep)]
        rw [hstep] at hundisturbed
        cases rest with
        | nil =>
          obtain rfl : k = 0 := by simpa using hk
          rfl
        | cons j more =>
          have hends := hinner i (by simp)
          have hnext := (i.proceed_course config hends c).1
          rw [hstep] at hnext
          refine ih i.next c' hrest ?_ hnext ?_ hundisturbed.2 k (by simpa using hk)
          · intro j' hj'
            exact hinner j' (by rw [List.dropLast_cons_cons]; exact List.mem_cons_of_mem i hj')
          · exact hundisturbed.1

/-- A block formed from a memory is a line of instructions of which only the last can transfer
control or ask the host for something.  Executed where its bytes are in place and not disturbed, it
does what as many single steps do, and so does every first part of it. -/
theorem execute_refines_singleSteps (config : Config) (m : Memory) (pc : UInt32) (b : Block)
    (h : compile m pc = .ok b) :
    b.instructions ≠ [] ∧ Line m pc b.instructions ∧ b.instructions.length ≤ maxLength ∧
      Complete m b.instructions ∧
      (∀ i ∈ b.instructions.dropLast, ∀ c : Context,
        (endState (i.proceed config c)).machine.pc = i.next ∧
          (endState (i.proceed config c)).control = c.control) ∧
      ∀ c : Context, c.machine.pc = pc → Intact m c.machine.memory b.instructions →
        Undisturbed config m b.instructions c →
        b.execute config c = Context.singleSteps config b.instructions.length c ∧
          ∀ k ≤ b.instructions.length,
            executeAll config (b.instructions.take k) c = Context.singleSteps config k c := by
  obtain ⟨-, first, hfirst, hinstructions⟩ := compile_eq_ok h
  have hline : Line m pc b.instructions := hinstructions ▸ straightLine_line hfirst _
  have hinner : ∀ i ∈ b.instructions.dropLast, i.opcode.endsUnit = false :=
    hinstructions ▸ straightLine_inner m _ first
  refine ⟨?_, hline, ?_, ?_, ?_, ?_⟩
  · obtain ⟨rest, hrest⟩ := straightLine_ne_nil m (maxLength - 1) first
    rw [hinstructions, hrest]
    exact List.cons_ne_nil first rest
  · rw [hinstructions]
    exact length_straightLine m _ first
  · rw [hinstructions]
    exact straightLine_complete m _ first
  · intro i hi c
    exact i.proceed_course config (hinner i hi) c
  · intro c hpc hintact hundisturbed
    have htake := executeAll_take config m b.instructions pc c hline hinner hpc hintact hundisturbed
    refine ⟨?_, htake⟩
    have hall := htake b.instructions.length (Nat.le_refl _)
    rwa [List.take_length] at hall

/-! ## A block of two instructions -/

namespace TwoInstructions

/-- `storeb 0 10 7`, `quit`, and data. -/
def memory : Memory :=
  ⟨#[0xE2, 0x57, 0x00, 0x0A, 0x07, 0xBA, 0, 0, 0, 0, 0, 0]⟩

def header : Header :=
  { (default : Header) with version := 5, fileLength := 12, staticMemory := 12 }

def context : Context where
  machine := { memory, header, pc := 0, story := memory }
  undo := .ofDepth 1

/-- The instruction that writes the byte at address 10. -/
def write : Instruction :=
  ⟨0, 5, .storeb, [.const 0, .const 10, .const 7], none, none, none⟩

def quit : Instruction :=
  ⟨5, 6, .quit, [], none, none, none⟩

def block : Block :=
  ⟨0, some (title .storeb 0), [write, quit]⟩

end TwoInstructions

open TwoInstructions in
theorem execute_refines_twoInstructions :
    compile memory 0 = .ok block ∧ context.machine.pc = 0 ∧
      Intact memory context.machine.memory block.instructions ∧
      Undisturbed {} memory block.instructions context ∧
      block.execute {} context = Context.singleSteps {} 2 context := by
  have hcompile : compile memory 0 = .ok block := by rfl
  have hintact : Intact memory context.machine.memory block.instructions :=
    fun _ _ => Memory.Agree.refl _ _ _
  have hwrite : write.proceed {} context =
      .ok () { context with machine := { context.machine with pc := 5, memory := memory.set8 10 7 } } :=
    by rfl
  have hundisturbed : Undisturbed {} memory block.instructions context := by
    show match write.proceed {} context with
      | .ok _ c => Intact memory c.machine.memory [quit] ∧ Undisturbed {} memory [quit] c
      | .error _ _ => True
    rw [hwrite]
    refine ⟨?_, undisturbed_singleton {} memory quit _⟩
    intro i hi k _ hk
    obtain rfl := List.mem_singleton.1 hi
    have hextent : Instruction.extent memory quit.address = 6 := by rfl
    rw [Memory.getElem?_set8, if_neg (by omega)]
  have hrefines := (execute_refines_singleSteps {} memory 0 block hcompile).2.2.2.2.2
    context rfl hintact hundisturbed
  exact ⟨hcompile, rfl, hintact, hundisturbed, hrefines.1⟩

end Block
end ZMachine
