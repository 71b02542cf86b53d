import ZMachine.Proofs.Engine.Batch
import ZMachine.Proofs.Engine.Rollback

/-!
# Runs that take no seed

The first of the numbers that nobody can foretell takes a seed from the supply; later ones come from
the generator that it seeded.  A run in which no instruction takes a seed goes by what it can see, and
the supply is not part of that:

    view of a context   the machine, the checkpoints, the control order, the screen
    view of a run       the view of its context, and the block that is kept at each address

From the same view every block ends alike, and so does the run: with the same order or fault, and with
the same view again.
-/

namespace ZMachine

variable {α : Type}

/-! ## Drawing a number -/

/-- Whether the next number takes a seed from the supply: it is not counted, and no generator has
been seeded. -/
def Random.takesSeed (r : Random) : Bool :=
  r.generator.isNone && !(0 < r.seed && r.seed < predictableLimit)

/-- A number that takes no seed is the same whatever the supply is, and leaves it alone. -/
theorem Random.next_of_seeded {r : Random} (h : r.takesSeed = false) (n n' : Entropy) (range : Nat) :
    r.next n range = ((r.next n' range).1, (r.next n' range).2.1, n) := by
  unfold next
  by_cases hcounts : 0 < r.seed ∧ r.seed < predictableLimit
  · rw [if_pos hcounts, if_pos hcounts]
  · rw [if_neg hcounts, if_neg hcounts]
    cases hgenerator : r.generator with
    | some g => rfl
    | none =>
      simp only [takesSeed, hgenerator, Option.isNone_none, Bool.true_and, Bool.not_eq_false',
        Bool.and_eq_true, decide_eq_true_eq] at h
      exact absurd h hcounts

/-- Draws a number where no seed is taken. -/
def Machine.roll (range : Nat) : MachineM UInt16 := fun s =>
  let (n, random, _) := s.random.next ⟨0⟩ range
  .ok (.ofNat n) { s with random }

/-- An instruction draws a number that takes a seed. -/
def Visit.TakesSeed (v : Visit) : Prop :=
  v.instruction.opcode = .random ∧ 0 < signed (v.operands.getD 0 0) ∧
    v.context.machine.random.takesSeed = true

instance (v : Visit) : Decidable v.TakesSeed :=
  inferInstanceAs (Decidable (_ ∧ _ ∧ _))

namespace Context

theorem draw_of_seeded {c : Context} (h : c.machine.random.takesSeed = false) (range : Nat) :
    draw range c = onMachine (Machine.roll range) c := by
  rw [draw_run, Random.next_of_seeded h c.entropy ⟨0⟩ range]
  rfl

/-- What an instruction can see of its context. -/
def view (c : Context) : Machine × Undo × Option Order × Window :=
  (c.machine, c.undo, c.control, c.window)

theorem machine_of_view {c d : Context} (h : d.view = c.view) : d.machine = c.machine :=
  congrArg Prod.fst h

/-- An action that does not see the supply of seeds goes by the view. -/
theorem Tells.alike {x : Exec α} {calls : Context → List Window.Call}
    (h : Tells (fun _ => ()) x calls) {c d : Context} (hcd : d.view = c.view) :
    Alike view (x c) (x d) := by
  have hwindow : d.window = c.window := congrArg (·.2.2.2) hcd
  have hcore : d.coreSeeing (fun _ => ()) = c.coreSeeing (fun _ => ()) :=
    congrArg (fun v => (v.1, v.2.1, v.2.2.1, (), v.2.2.2.settings)) hcd
  obtain ⟨houtcome, hend, hplayed⟩ := h c d hcore
  refine ⟨houtcome, ?_⟩
  have hsame : (endState (x d)).window = (endState (x c)).window := by
    rw [hplayed, h.window_eq c, hwindow]
  unfold view
  rw [hsame]
  exact congrArg (fun k => (k.1, k.2.1, k.2.2.1, (endState (x c)).window)) hend

end Context

open Context

namespace Instruction

/-- A number is drawn alike from the same view, unless it takes a seed. -/
theorem random_alike (config : Config) {i : Instruction} (ops : List UInt16) {c d : Context}
    (hop : i.opcode = .random) (hcd : d.view = c.view)
    (hseed : ¬ Visit.TakesSeed ⟨config, i, ops, c⟩) :
    Alike view (i.perform config ops c) (i.perform config ops d) := by
  rw [perform_random config hop]
  by_cases hpositive : 0 < signed (ops.getD 0 0)
  · have hc : c.machine.random.takesSeed = false := by
      cases htakes : c.machine.random.takesSeed with
      | false => rfl
      | true => exact absurd ⟨hop, hpositive, htakes⟩ hseed
    have hd : d.machine.random.takesSeed = false := by rwa [machine_of_view hcd]
    have hroll : Quiet (fun _ => ())
        (onMachine (Machine.roll (ops.getD 0 0).toNat) >>= Context.store i.store) :=
      quiet_bind (onMachine_quiet _) (fun _ => store_quiet i.store _)
    rw [if_pos hpositive, bind_of_eq (draw_of_seeded hc _), bind_of_eq (draw_of_seeded hd _)]
    exact Tells.alike hroll hcd
  · rw [if_neg hpositive]
    exact Tells.alike (quiet_bind (onMachine_quiet _) (fun _ => store_quiet i.store 0)) hcd

/-- An instruction that takes no seed goes by the view. -/
theorem proceed_alike (config : Config) (i : Instruction) {c d : Context} (hcd : d.view = c.view)
    (hseeds : ∀ v ∈ i.visits config c, ¬ v.TakesSeed) :
    Alike view (i.proceed config c) (i.proceed config d) := by
  have hjumped : { d with machine.pc := i.next }.view = { c with machine.pc := i.next }.view :=
    congrArg (fun v => ({ v.1 with pc := i.next }, v.2)) hcd
  rw [proceed_run, proceed_run]
  by_cases hop : i.opcode = .random
  · refine (Tells.alike (operandValues_quiet i.operands) hjumped).bind ?_
    intro ops c' d' hoperands hcd'
    have hsomething : isAboutNothing i.opcode ops = false := by rw [hop]; rfl
    rw [hsomething, if_neg (by decide)]
    refine random_alike config ops hop hcd' (hseeds _ ?_)
    unfold visits
    rw [hoperands]
    exact List.mem_singleton_self _
  · exact Tells.alike (i.step_tells config (fun ops hrandom => absurd hrandom hop)) hjumped

end Instruction

/-- So do instructions that are executed in turn. -/
theorem Block.executeAll_alike (config : Config) (instructions : List Instruction) :
    ∀ {c d : Context}, d.view = c.view →
      (∀ v ∈ visits config instructions c, ¬ v.TakesSeed) →
        Alike view (executeAll config instructions c) (executeAll config instructions d) := by
  induction instructions with
  | nil => exact fun {c d} hcd _ => ⟨rfl, hcd⟩
  | cons i rest ih =>
    intro c d hcd hseeds
    unfold visits at hseeds
    rw [executeAll_cons]
    have hfirst := i.proceed_alike config hcd
      (fun v hv => hseeds v (List.mem_append_left _ hv))
    refine hfirst.bind (fun u c' d' hproceed hcd' => ih hcd' (fun v hv => ?_))
    rw [hproceed] at hseeds
    exact hseeds v (List.mem_append_right _ hv)

/-! ## Runs -/

theorem Cache.lookup_fst (pc : UInt32) (c : Cache) : (c.lookup pc).1 = c.blocks[pc]? := by
  unfold lookup
  cases c.blocks[pc]? <;> rfl

theorem Cache.lookup_blocks (pc : UInt32) (c : Cache) : (c.lookup pc).2.blocks = c.blocks := by
  unfold lookup
  cases c.blocks[pc]? <;> rfl

namespace Run

/-- What a story can see of its run. -/
def view (run : Run) : (Machine × Undo × Option Order × Window) × (UInt32 → Option Block) :=
  (run.context.view, fun pc => run.cache.blocks[pc]?)

variable {run other : Run}

theorem machine_eq_of_view (h : other.view = run.view) :
    other.context.machine = run.context.machine :=
  congrArg (·.1.1) h

theorem blocks_of_view (h : other.view = run.view) (pc : UInt32) :
    other.cache.blocks[pc]? = run.cache.blocks[pc]? :=
  congrFun (congrArg Prod.snd h) pc

/-- Fetching goes by the view, however often the cache was asked. -/
theorem fetch_alike (h : other.view = run.view) : Alike view (fetch run) (fetch other) := by
  have hlookup (pc : UInt32) : QuietOn view (fun _ => {}) (lookup pc) := by
    intro run other h
    rw [lookup_run, lookup_run]
    refine ⟨?_, ?_, rfl⟩
    · show Except.ok (other.cache.lookup pc).1 = Except.ok (run.cache.lookup pc).1
      rw [Cache.lookup_fst, Cache.lookup_fst, blocks_of_view h]
    · show (other.context.view, fun pc' => (other.cache.lookup pc).2.blocks[pc']?) =
        (run.context.view, fun pc' => (run.cache.lookup pc).2.blocks[pc']?)
      rw [Cache.lookup_blocks, Cache.lookup_blocks]
      exact h
  have hnote (r : Record) : QuietOn view (fun _ => {}) (note r) :=
    quiet_modify (fun _ _ h => h) (fun _ => rfl)
  have hinsert (b : Block) : QuietOn view (fun _ => {})
      (modify fun r => { r with cache := r.cache.insert b } : RunM Unit) := by
    refine quiet_modify (fun run other h => ?_) (fun _ => rfl)
    refine congrArg₂ Prod.mk (congrArg Prod.fst h) (funext fun pc => ?_)
    show (other.cache.blocks.insert b.pc b)[pc]? = (run.cache.blocks.insert b.pc b)[pc]?
    rw [Std.TreeMap.getElem?_insert, Std.TreeMap.getElem?_insert, blocks_of_view h]
  have hfetch : QuietOn view (fun _ => {}) fetch := by
    unfold fetch
    refine quiet_get_bind (fun run other h => by rw [machine_eq_of_view h]) (fun run => ?_)
    refine quiet_bind (hlookup _) (fun found => ?_)
    cases found with
    | some b => exact quiet_bind (hnote _) (fun _ => quiet_pure b)
    | none =>
      refine quiet_get_bind (fun run other h => by rw [machine_eq_of_view h]) (fun run => ?_)
      refine quiet_bind (quiet_liftExcept _) (fun b => ?_)
      have hform : QuietOn view (fun _ => {}) (do
          note .blockFormed
          modify fun r => { r with cache := r.cache.insert b }
          return b : RunM Block) :=
        quiet_bind (hnote _) (fun _ => quiet_bind (hinsert b) (fun _ => quiet_pure b))
      exact tells_ite (fun _ => quiet_bind (hnote _) (fun _ => hform)) (fun _ => hform)
  obtain ⟨houtcome, hview, -⟩ := hfetch run other h
  exact ⟨houtcome, hview⟩

theorem execute_alike (config : Config) (b : Block) (h : other.view = run.view)
    (hseeds : ∀ v ∈ Block.visits config b.instructions run.context, ¬ v.TakesSeed) :
    Alike view (execute config b run) (execute config b other) := by
  have hblocks : (fun pc : UInt32 => other.cache.blocks[pc]?) = fun pc => run.cache.blocks[pc]? :=
    congrArg Prod.snd h
  have halike := Block.executeAll_alike config b.instructions (congrArg Prod.fst h) hseeds
  rw [execute_run, execute_run]
  unfold Block.execute
  cases hrun : Block.executeAll config b.instructions run.context with
  | ok u c =>
    obtain ⟨d, hother, hview⟩ := halike.of_ok hrun
    rw [hother]
    exact ⟨rfl, congrArg₂ Prod.mk hview hblocks⟩
  | error e c =>
    obtain ⟨d, hother, hview⟩ := halike.of_error hrun
    rw [hother]
    exact ⟨rfl, congrArg₂ Prod.mk hview hblocks⟩

theorem takeControl_alike (h : other.view = run.view) :
    Alike view (takeControl run) (takeControl other) := by
  obtain ⟨⟨s, w, u, control, n, j⟩, cache⟩ := run
  obtain ⟨⟨s', w', u', control', n', j'⟩, cache'⟩ := other
  simp only [view, Context.view, Prod.mk.injEq] at h
  obtain ⟨⟨rfl, rfl, rfl, rfl⟩, hblocks⟩ := h
  refine ⟨rfl, ?_⟩
  unfold takeControl
  dsimp only
  split <;> exact congrArg (Prod.mk _) hblocks

/-- The next block is executed alike if it takes no seed. -/
theorem turn_alike (config : Config) (h : other.view = run.view)
    (hseeds : ∀ v ∈ turnVisits config run, ¬ v.TakesSeed) :
    Alike view (turn config run) (turn config other) := by
  refine (fetch_alike h).bind (fun b next next' hfetch hnext => ?_)
  unfold turnVisits at hseeds
  rw [hfetch] at hseeds
  refine (execute_alike config b hnext hseeds).bind (fun u last last' _ hlast => ?_)
  exact takeControl_alike hlast

/-- A run ends alike if no instruction on the way takes a seed. -/
theorem loop_alike (loaded : Option Memory) (config : Config) (units : Nat) :
    ∀ {run other : Run}, other.view = run.view →
      (∀ v ∈ (run.fetches loaded config units).flatMap Fetch.visits, ¬ v.TakesSeed) →
        Alike view (loop config units run) (loop config units other) := by
  induction units with
  | zero => exact fun {run other} h _ => ⟨rfl, h⟩
  | succ units ih =>
    intro run other h hseeds
    rw [visits_succ] at hseeds
    have hturn := turn_alike config h (fun v hv => hseeds v (List.mem_append_left _ hv))
    refine hturn.bind (fun control next next' hnext hview => ?_)
    cases control with
    | some order => exact ⟨rfl, hview⟩
    | none =>
      refine ih hview (fun v hv => hseeds v (List.mem_append_right _ ?_))
      rw [hnext]
      exact hv

end Run

/-! ## Engines -/

namespace Engine

/-- What a story can see of an engine while it runs. -/
def view (e : Engine) :
    Config × Option Machine × Undo × Window × (UInt32 → Option Block) :=
  (e.config, e.machine, e.undo, e.window, fun pc => e.cache.blocks[pc]?)

/-- The story runs alike in engines with the same view, and hands over the same. -/
theorem run_alike {e e' : Engine} (h : e'.view = e.view) (units : Nat)
    (hseeds : ∀ r, e.toRun? = some r →
      ∀ v ∈ (r.fetches e.story e.config units).flatMap Fetch.visits, ¬ v.TakesSeed) :
    Alike view (run units e) (run units e') := by
  simp only [view, Prod.mk.injEq] at h
  obtain ⟨hconfig, hmachine, hundo, hwindow, hblocks⟩ := h
  cases hs : e.machine with
  | none =>
    rw [run_none hs, run_none (hmachine.trans hs)]
    refine ⟨rfl, ?_⟩
    simp only [endState_error, view, hconfig, hmachine, hundo, hblocks]
  | some s =>
    have hview : Run.view ⟨e'.contextOf s, e'.cache⟩ = Run.view ⟨e.contextOf s, e.cache⟩ := by
      simp only [Run.view, Context.view, contextOf, hundo, hwindow, hblocks]
    have hrun := toRun?_of_machine hs
    have halike := Run.loop_alike e.story e.config units hview (hseeds _ hrun)
    rw [run_of_toRun? hrun, run_of_toRun? (toRun?_of_machine (hmachine.trans hs)), hconfig]
    cases hloop : Run.loop e.config units ⟨e.contextOf s, e.cache⟩ with
    | ok control last =>
      obtain ⟨last', hloop', hlast⟩ := halike.of_ok hloop
      rw [hloop']
      simp only [Run.view, Context.view, Prod.mk.injEq] at hlast
      obtain ⟨⟨hmachine, hundo, -, hwindow⟩, hblocks⟩ := hlast
      dsimp only
      refine ⟨?_, ?_⟩
      · rw [hwindow]
        rfl
      · simp only [endState_ok, view, hmachine, hundo, hwindow, hblocks]
    | error fault last =>
      obtain ⟨last', hloop', hlast⟩ := halike.of_error hloop
      rw [hloop']
      simp only [Run.view, Context.view, Prod.mk.injEq] at hlast
      obtain ⟨⟨hmachine, hundo, -, -⟩, hblocks⟩ := hlast
      refine ⟨rfl, ?_⟩
      simp only [endState_error, view, hmachine, hundo, hblocks]

end Engine
end ZMachine
