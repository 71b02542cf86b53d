import Mathlib.Control.Monad.Basic
import ZMachine.Block.Basic
import ZMachine.Proofs.Execution.Rounds
import ZMachine.Proofs.Execution.Settling

/-!
# Where an instruction does not end

An object is taken out of the children of its parent by walking along them to the one before it.  On
well-formed links the walk comes to it.  But where the children go round without the object, though
it names their parent as its own, the walk goes on for ever, and so does the instruction:

    step config i does not end from c   ↔   i.Circles c

`Circles` asks for `remove_obj` or `insert_obj` on such links.  All other instructions end, on any
memory, and so does every other loop.  A block does not end just if one of its instructions does
not.
-/

namespace ZMachine

/-! ## Children that go round -/

namespace ObjectTable

/-- The children of the parent that an object names go round without it: from the first child on,
one sibling follows the other, and none of them is the object. -/
def GoesRound (t : ObjectTable) (m : Memory) (o : UInt16) : Prop :=
  ∃ (parent next : UInt16) (children : Nat → UInt16),
    t.parent m o = .ok parent ∧ parent ≠ 0 ∧ t.sibling m o = .ok next ∧
    t.child m parent = .ok (children 0) ∧
    ∀ n, children n ≠ 0 ∧ children n ≠ o ∧ t.sibling m (children n) = .ok (children (n + 1))

section
variable {t : ObjectTable} {m : Memory} {o : UInt16}

/-- The walk goes on for ever just along siblings of which none is the object. -/
theorem forever_walkRound_iff {first : UInt16} (hne : first ≠ o) :
    Forever (t.walkRound m o) first ↔ ∃ children : Nat → UInt16, children 0 = first ∧
      ∀ n, children n ≠ 0 ∧ children n ≠ o ∧ t.sibling m (children n) = .ok (children (n + 1)) := by
  constructor
  · rintro ⟨children, hfirst, hnext⟩
    refine ⟨children, hfirst, fun n => ?_⟩
    obtain ⟨hzero, hsibling, -⟩ := walkRound_eq_again_iff.1 (hnext n)
    refine ⟨hzero, ?_, hsibling⟩
    cases n with
    | zero =>
      rw [hfirst]
      exact hne
    | succ n => exact (walkRound_eq_again_iff.1 (hnext n)).2.2
  · rintro ⟨children, hfirst, hnext⟩
    refine ⟨children, hfirst, fun n => walkRound_eq_again_iff.2 ?_⟩
    exact ⟨(hnext n).1, (hnext n).2.2, (hnext (n + 1)).2.1⟩

/-- A walk that ends answers, or fails with what a read failed with. -/
theorem walk_resolves {n : Nat} {current : UInt16} {r : Except Fault (Option UInt16)}
    (h : Ends (t.walkRound m o) n current r) : Resolves r := by
  induction h with
  | again _ _ ih => exact ih
  | @done n current r h =>
    unfold walkRound at h
    split at h
    · cases h
      exact resolves_pure none
    · split at h
      · next e hsibling =>
        cases h
        intro e' he'
        cases he'
        exact t.link_resolves .sibling m current e hsibling
      · split at h
        · cases h
          exact resolves_pure _
        · cases h

/-- The search for the object before one does not end just if the walk does not. -/
theorem endless_before_iff {first : UInt16} {g : Option UInt16 → MemoryM Unit}
    (hg : ∀ found, Settles (g found)) (m' : Memory) :
    Endless ((liftM (t.before m o first) : MemoryM (Option UInt16)) >>= g) m' ↔
      Forever (t.walkRound m o) first := by
  rw [endless_bind_iff_left hg, ← loop_eq_none_iff]
  unfold before walk
  cases hwalk : loop (t.walkRound m o) first with
  | none => exact ⟨fun _ => rfl, fun _ => ⟨.endlessChain o, m', rfl, rfl⟩⟩
  | some r =>
    obtain ⟨n, hends⟩ := ends_of_loop hwalk
    have hsettles : Settles (liftM r : MemoryM (Option UInt16)) := settles_ask (walk_resolves hends)
    exact ⟨fun h => absurd h (hsettles.not_endless m'), fun h => by cases h⟩

/-- What is read before the walk, and then the walk. -/
theorem endless_remove_iff_forever : Endless (t.remove o) m ↔
    o ≠ 0 ∧ ∃ parent, t.parent m o = .ok parent ∧ parent ≠ 0 ∧
      ∃ next, t.sibling m o = .ok next ∧ ∃ first, t.child m parent = .ok first ∧ first ≠ o ∧
        Forever (t.walkRound m o) first := by
  have hlinks : Settles (do
      t.setLink .parent o 0
      t.setLink .sibling o 0) :=
    settles_bind (t.setLink_settles _ o 0) (fun _ => t.setLink_settles _ o 0)
  unfold remove
  refine (endless_ite_iff (settles_pure ())).trans (and_congr_right fun _ => ?_)
  refine (endless_ask_bind_iff (t.link_resolves .parent m o)).trans ?_
  refine exists_congr fun parent => and_congr_right fun _ => ?_
  refine (endless_ite_iff (settles_pure ())).trans (and_congr_right fun _ => ?_)
  refine (endless_ask_bind_iff (t.link_resolves .sibling m o)).trans ?_
  refine exists_congr fun next => and_congr_right fun _ => ?_
  refine (endless_ask_bind_iff (t.link_resolves .child m parent)).trans ?_
  refine exists_congr fun first => and_congr_right fun _ => ?_
  refine (endless_ite_iff ?_).trans (and_congr_right fun _ => endless_before_iff (fun found => ?_) m)
  · exact settles_bind (t.setLink_settles _ parent next) (fun _ => hlinks)
  · cases found with
    | some current => exact settles_bind (t.setLink_settles _ current next) (fun _ => hlinks)
    | none => exact hlinks

/-- Taking out an object does not end just on children that go round without it. -/
theorem endless_remove_iff : Endless (t.remove o) m ↔ t.GoesRound m o := by
  rw [endless_remove_iff_forever]
  constructor
  · rintro ⟨-, parent, hparent, hzero, next, hnext, first, hchild, hne, hforever⟩
    obtain ⟨children, rfl, hchildren⟩ := (forever_walkRound_iff hne).1 hforever
    exact ⟨parent, next, children, hparent, hzero, hnext, hchild, hchildren⟩
  · rintro ⟨parent, next, children, hparent, hzero, hnext, hchild, hchildren⟩
    have hne : children 0 ≠ o := (hchildren 0).2.1
    have hforever := (forever_walkRound_iff hne).2 ⟨children, rfl, hchildren⟩
    refine ⟨fun ho => hzero ?_, parent, hparent, hzero, next, hnext, _, hchild, hne, hforever⟩
    subst ho
    exact (Except.ok.inj hparent).symm

/-- Putting an object elsewhere does not end just where taking it out does not. -/
theorem endless_insert_iff {target : UInt16} :
    Endless (t.insert o target) m ↔ target ≠ 0 ∧ t.GoesRound m o := by
  unfold insert
  rw [endless_ite_iff (settles_pure ()), endless_bind_iff_left (fun _ => ?_), endless_remove_iff]
  · constructor
    · rintro ⟨hzero, hround⟩
      exact ⟨fun htarget => hzero (.inr htarget), hround⟩
    · rintro ⟨htarget, hround⟩
      refine ⟨fun hzero => ?_, hround⟩
      rcases hzero with rfl | hzero
      · obtain ⟨parent, -, -, hparent, hne, -⟩ := hround
        exact hne (Except.ok.inj hparent).symm
      · exact htarget hzero
  · refine settles_bind settles_get (fun m => ?_)
    refine settles_bind (settles_ask (t.link_resolves _ m _)) (fun first => ?_)
    refine settles_bind (t.setLink_settles _ o first) (fun _ => ?_)
    exact settles_bind (t.setLink_settles _ o target) (fun _ => t.setLink_settles _ target o)

end

end ObjectTable

/-! ## One instruction -/

open Context

theorem Context.endless_onObjects_iff {action : ObjectTable → MemoryM Unit} {c : Context} :
    Endless (onMachine (Machine.onObjects action)) c ↔
      Endless (action c.machine.header.objectTable) c.machine.memory := by
  unfold Endless
  rw [onMachine_run]
  have hrun : Machine.onObjects action c.machine =
      Machine.onMemory (action c.machine.header.objectTable) c.machine := rfl
  rw [hrun, Machine.onMemory_run]
  cases action c.machine.header.objectTable c.machine.memory with
  | ok a m =>
    constructor
    · rintro ⟨e, c', h, -⟩
      cases h
    · rintro ⟨e, m', h, -⟩
      cases h
  | error e m =>
    constructor
    · rintro ⟨e', c', ⟨⟩, hendless⟩
      exact ⟨e, m, rfl, hendless⟩
    · rintro ⟨e', m', ⟨⟩, hendless⟩
      exact ⟨e, _, rfl, hendless⟩

theorem Machine.readVar_keeps_memory (v : Variable) :
    Keeps (fun s : Machine => (s.header, s.memory)) (readVar v) := by
  have hstack {α : Type} (action : StackM α) :
      Keeps (fun s : Machine => (s.header, s.memory)) (onStack action) := by
    intro s
    rw [endState_onStack]
  refine keeps_ite (fun _ => hstack _) (fun _ => keeps_ite (fun _ => hstack _) (fun _ => ?_))
  exact keeps_bind keeps_get (fun s => keeps_liftExcept _)

namespace Instruction

theorem operandValues_keeps_memory (operands : List Operand) :
    Keeps (fun c : Context => (c.machine.header, c.machine.memory)) (operandValues operands) := by
  induction operands with
  | nil => exact keeps_pure []
  | cons operand rest ih =>
    cases operand with
    | const v => exact keeps_bind ih (fun _ => keeps_pure _)
    | var source =>
      have hread : Keeps (fun c : Context => (c.machine.header, c.machine.memory))
          (onMachine (Machine.readVar source)) := by
        intro c
        rw [endState_onMachine]
        exact Machine.readVar_keeps_memory source c.machine
      exact keeps_bind hread (fun v => keeps_bind ih (fun _ => keeps_pure _))

/-- An instruction is to take an object out of children that go round without it. -/
def Circles (i : Instruction) (c : Context) : Prop :=
  ∃ ops c', operandValues i.operands c = .ok ops c' ∧
    (i.opcode = .removeObj ∨ i.opcode = .insertObj ∧ ops.getD 1 0 ≠ 0) ∧
    c.machine.header.objectTable.GoesRound c.machine.memory (ops.getD 0 0)

/-- Only what takes an object out of the tree may not end. -/
theorem endless_perform_iff (config : Config) (i : Instruction) (ops : List UInt16) (c : Context) :
    Endless (i.perform config ops) c ↔
      (i.opcode = .removeObj ∨ i.opcode = .insertObj ∧ ops.getD 1 0 ≠ 0) ∧
      c.machine.header.objectTable.GoesRound c.machine.memory (ops.getD 0 0) := by
  by_cases hremove : i.opcode = .removeObj
  · have hrun : i.perform config ops =
        onMachine (Machine.onObjects fun t => t.remove (ops.getD 0 0)) := by
      unfold perform
      rw [hremove]
    rw [hrun, endless_onObjects_iff, ObjectTable.endless_remove_iff]
    exact ⟨fun h => ⟨.inl hremove, h⟩, fun h => h.2⟩
  by_cases hinsert : i.opcode = .insertObj
  · have hrun : i.perform config ops =
        onMachine (Machine.onObjects fun t => t.insert (ops.getD 0 0) (ops.getD 1 0)) := by
      unfold perform
      rw [hinsert]
    rw [hrun, endless_onObjects_iff, ObjectTable.endless_insert_iff]
    constructor
    · exact fun h => ⟨.inr ⟨hinsert, h.1⟩, h.2⟩
    · rintro ⟨hop | hop, hround⟩
      · exact absurd hop hremove
      · exact ⟨hop.2, hround⟩
  · constructor
    · exact fun h => absurd h ((perform_settles config i ops hremove hinsert).not_endless c)
    · rintro ⟨hop | hop, -⟩
      · exact absurd hop hremove
      · exact absurd hop.1 hinsert

/-- An instruction does not end just where it takes an object out of children that go round. -/
theorem endless_step_iff (config : Config) (i : Instruction) (c : Context) :
    Endless (i.step config) c ↔ i.Circles c := by
  unfold step Circles
  rw [endless_bind_iff_right (operandValues_settles i.operands)]
  refine exists_congr fun ops => exists_congr fun c' => and_congr_right fun hops => ?_
  obtain ⟨hheader, hmemory⟩ :=
    Prod.mk.inj ((operandValues_keeps_memory i.operands).of_ok hops)
  rw [← hheader, ← hmemory]
  -- a note leaves the machine as it is
  have hnoted (c : Context) : Endless (do
      note .objectMissing
      i.perform config ops) c ↔
        Endless (i.perform config ops) { c with journal := c.journal.note .objectMissing } :=
    Iff.rfl
  split
  · rw [hnoted, endless_perform_iff]
  · exact endless_perform_iff config i ops c'

end Instruction

/-! ## A block -/

/-- A block does not end just if one of its instructions does not, where those before it have come
to their end. -/
theorem Block.endless_executeAll_iff (config : Config) (instructions : List Instruction)
    (c : Context) : Endless (executeAll config instructions) c ↔
      ∃ first i rest c', instructions = first ++ i :: rest ∧
        executeAll config first c = .ok () c' ∧ i.Circles { c' with machine.pc := i.next } := by
  induction instructions generalizing c with
  | nil =>
    constructor
    · exact fun h => absurd h ((settles_pure ()).not_endless c)
    · rintro ⟨first, i, rest, c', h, -⟩
      cases first <;> cases h
  | cons j instructions ih =>
    have hrun (rest : List Instruction) : executeAll config (j :: rest) c =
        (j.step config >>= fun _ => executeAll config rest) { c with machine.pc := j.next } := rfl
    have hendless : Endless (executeAll config (j :: instructions)) c ↔
        Endless (j.step config >>= fun _ => executeAll config instructions)
          { c with machine.pc := j.next } := Iff.rfl
    rw [hendless, endless_bind, Instruction.endless_step_iff]
    constructor
    · rintro (hcircles | ⟨u, c', hstep, h⟩)
      · exact ⟨[], j, instructions, c, rfl, rfl, hcircles⟩
      · obtain ⟨first, i, rest, c'', rfl, hfirst, hcircles⟩ := (ih c').1 h
        exact ⟨j :: first, i, rest, c'', rfl, (hrun first).trans ((bind_ok hstep).trans hfirst),
          hcircles⟩
    · rintro ⟨first, i, rest, c', heq, hfirst, hcircles⟩
      cases first with
      | nil =>
        cases heq
        cases hfirst
        exact .inl hcircles
      | cons k first =>
        cases heq
        obtain ⟨u, c'', hstep, hfirst⟩ := bind_eq_ok ((hrun first).symm.trans hfirst)
        exact .inr ⟨u, c'', hstep, (ih c'').2 ⟨first, i, rest, c', rfl, hfirst, hcircles⟩⟩

/-! ## All loops -/

/-- The loops that read a memory, beside the walk along siblings: each ends, after a number of rounds
that is known when it begins. -/
structure LoopsEnd (m : Memory) : Prop where
  property : ∀ number address, Ends (ObjectTable.findRound m number) (m.size + 1) address
    (ObjectTable.findFrom m number (m.size + 1) address)
  zstring : ∀ address, Ends (ZString.readRound m) (m.size + 1) (address, []) (ZString.read m address)
  sorted : ∀ (d : Dictionary) key count, Ends (d.halveRound m key) (count + 1) (0, count)
    (d.searchSorted m key (count + 1) 0 count)
  linear : ∀ (d : Dictionary) key count i, Ends (d.nextRound m key) (count + 1) (count, i)
    (d.searchLinear m key count i)
  scan : ∀ value form count address, Ends (Table.scanRound m value form) (count + 1) (count, address)
    (Table.scan m value form count address)

theorem loopsEnd (m : Memory) : LoopsEnd m where
  property := ObjectTable.findFrom_ends m
  zstring := ZString.read_ends m
  sorted d key count := d.searchSorted_ends m key count
  linear d key count i := d.searchLinear_ends m key count i
  scan := Table.scan_ends m

/-- Every instruction and every block ends, whatever the memory, unless an object is taken out of
children that go round without it; then the walk along them, the one loop without a bound, goes on for
ever. -/
theorem endless_iff_circles (config : Config) :
    (∀ (i : Instruction) c, Endless (i.step config) c ↔ i.Circles c) ∧
    (∀ (b : Block) c, Endless (b.execute config) c ↔
      ∃ first i rest c', b.instructions = first ++ i :: rest ∧
        Block.executeAll config first c = .ok () c' ∧
        i.Circles { c' with machine.pc := i.next }) ∧
    (∀ (t : ObjectTable) m o first,
      t.walk m o first = none ↔ Forever (t.walkRound m o) first) ∧
    (∀ m, LoopsEnd m) ∧
    ∀ width skip first rows address c,
      Ends (Table.printRound width skip) (rows + 1) (rows, first, address, c)
        (Table.print width skip first rows address c) :=
  ⟨Instruction.endless_step_iff config,
    fun b => Block.endless_executeAll_iff config b.instructions,
    fun _ _ _ _ => loop_eq_none_iff, loopsEnd, Table.print_ends⟩

/-- A story of three objects.  The first is a child of the second, which names the third one as its
child, and that one is its own sibling.  At 0xF0 the first is taken out, and then the story ends. -/
def ringStory : Memory :=
  .ofList ([5, 0, 0, 0, 0, 0xF0, 0, 0xF0, 0, 0, 0, 0x40, 0, 0, 0, 0xF0]
    ++ List.replicate 180 0 ++ [0, 2] ++ List.replicate 16 0 ++ [0, 3] ++ List.replicate 8 0
    ++ [0, 2, 0, 3] ++ List.replicate 12 0 ++ [0x99, 1, 0xBA] ++ List.replicate 13 0)

/-- The first instruction of that story, which is `remove_obj`, does not end. -/
theorem step_ringStory_endless :
    ∃ s i, Machine.start ringStory none = .ok s ∧ Instruction.decode s.memory s.pc = .ok i ∧
      Endless (i.step {}) { machine := s, undo := .ofDepth 8 } := by
  let i : Instruction := ⟨0xF0, 0xF2, .removeObj, [.const 1], none, none, none⟩
  obtain ⟨s, hstart, hpc, htable⟩ : ∃ s, Machine.start ringStory none = .ok s ∧
      s.pc = 0xF0 ∧ s.header.objectTable = ⟨0xB0, 0x40⟩ :=
    exists_ok (by decide +kernel)
  have hmemory : s.memory = ringStory := by
    unfold Machine.start at hstart
    obtain ⟨header, -, h⟩ := except_bind_eq_ok hstart
    cases h
    rfl
  have hdecode : Instruction.decode ringStory 0xF0 = .ok i := by decide +kernel
  -- the third object follows itself
  have hsibling : (⟨0xB0, 0x40⟩ : ObjectTable).sibling ringStory 3 = .ok 3 := by decide +kernel
  have hchild : (⟨0xB0, 0x40⟩ : ObjectTable).child ringStory 2 = .ok 3 := by decide +kernel
  have hround : (⟨0xB0, 0x40⟩ : ObjectTable).GoesRound ringStory 1 :=
    ⟨2, 0, fun _ => 3, by decide +kernel, by decide, by decide +kernel, hchild,
      fun _ => ⟨(by decide : (3 : UInt16) ≠ 0), (by decide : (3 : UInt16) ≠ 1), hsibling⟩⟩
  refine ⟨s, i, hstart, by rw [hmemory, hpc, hdecode], ?_⟩
  refine (Instruction.endless_step_iff {} i _).2 ⟨[1], _, rfl, .inl rfl, ?_⟩
  rw [htable, hmemory]
  exact hround

end ZMachine
