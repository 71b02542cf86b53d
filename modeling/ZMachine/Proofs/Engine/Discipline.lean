import Mathlib.Data.List.Induction
import ZMachine.Proofs.Engine.History
import ZMachine.Proofs.Undo

/-!
# The discipline of the stack, whatever the host does

Every step of an instruction preserves that the stack of the machine and those of all checkpoints
are disciplined, and so does every input, except for a save that is put in force: its stack takes the
place of the machine's as it is.  So a stack without discipline comes from such a save.  A restart
that gets as far as a machine begins anew, with an empty stack and no checkpoints.

    e.Disciplined,  what t restores is disciplined   →   (after [t] e).Disciplined
    t restarts e                                     →   (after [t] e).Disciplined
-/

namespace ZMachine

/-! ## Checkpoints -/

namespace Undo

/-- The stacks of all checkpoints are disciplined. -/
def Disciplined (u : Undo) : Prop :=
  ∀ p ∈ u.entries, p.stack.Disciplined

variable {u : Undo}

theorem disciplined_of_empty (h : u.entries = []) : u.Disciplined := by
  intro p hp
  rw [h] at hp
  cases hp

theorem Disciplined.setDepth (h : u.Disciplined) (depth : Nat) : (u.setDepth depth).Disciplined :=
  fun p hp => h p (List.mem_of_mem_take hp)

theorem Disciplined.push (h : u.Disciplined) {p : Snapshot} (hp : p.stack.Disciplined) :
    (u.push p).Disciplined := by
  obtain ⟨kept, hkept, hentries⟩ := push_entries u p
  intro q hq
  rw [hentries] at hq
  rcases List.mem_cons.1 hq with rfl | hrest
  · exact hp
  · exact h q (hkept.subset hrest)

theorem Disciplined.pop (h : u.Disciplined) {p : Snapshot} {v : Undo} (hpop : u.pop = some (p, v)) :
    p.stack.Disciplined ∧ v.Disciplined := by
  unfold Disciplined at h
  rw [(pop_eq_some hpop).1] at h
  exact ⟨h p List.mem_cons_self, fun r hr => h r (List.mem_cons_of_mem _ hr)⟩

end Undo

/-! ## Instructions -/

theorem Machine.Change.disciplined {s s' : Machine} (h : s.Change s') (hs : s.stack.Disciplined) :
    s'.stack.Disciplined := by
  cases h with
  | stack ht => exact hs.change ht
  | memory | random | streams => exact hs

namespace Context

/-- The stack of the machine and those of all checkpoints are disciplined. -/
structure Disciplined (c : Context) : Prop where
  stack : c.machine.stack.Disciplined
  undo : c.undo.Disciplined

variable {c c' : Context}

theorem Change.disciplined (h : Change c c') (hc : c.Disciplined) : c'.Disciplined := by
  cases h with
  | machine hs => exact ⟨hs.disciplined hc.stack, hc.undo⟩
  | window | entropy | journal => exact ⟨hc.stack, hc.undo⟩

theorem Transfer.disciplined (h : Transfer c c') (hc : c.Disciplined) : c'.Disciplined := by
  cases h with
  | change h => exact h.disciplined hc
  | jump | request => exact ⟨hc.stack, hc.undo⟩
  | enter hroom hlocals hbase => exact ⟨hc.stack.enter hroom hlocals hbase, hc.undo⟩
  | leave ht => exact ⟨hc.stack.leave ht, hc.undo⟩
  | keep => exact ⟨hc.stack, hc.undo.push hc.stack⟩
  | drop hpop => exact ⟨hc.stack, (hc.undo.pop hpop).2⟩
  | back hpop hsize => exact ⟨(hc.undo.pop hpop).1, (hc.undo.pop hpop).2⟩

end Context

namespace Run

/-- Executing a block preserves the discipline. -/
theorem execute_disciplined (config : Config) (b : Block) :
    Leads (fun run run' : Run => run.context.Disciplined → run'.context.Disciplined)
      (execute config b) := by
  intro run hrun
  rw [endState_execute]
  exact (Block.executeAll_makes config b.instructions).preserves (fun _ _ h => h.disciplined) hrun

theorem fetch_disciplined :
    Leads (fun run run' : Run => run.context.Disciplined → run'.context.Disciplined) fetch := by
  intro run hrun
  have hstate := fetch_keeps_state run
  simp only [Prod.mk.injEq] at hstate
  exact ⟨hstate.1 ▸ hrun.stack, hstate.2 ▸ hrun.undo⟩

theorem takeControl_disciplined :
    Leads (fun run run' : Run => run.context.Disciplined → run'.context.Disciplined)
      takeControl := by
  rintro ⟨context, cache⟩ hrun
  unfold takeControl
  dsimp only
  split <;> exact ⟨hrun.stack, hrun.undo⟩

theorem turn_disciplined (config : Config) :
    Leads (fun run run' : Run => run.context.Disciplined → run'.context.Disciplined)
      (turn config) :=
  leads_bind fetch_disciplined (fun b =>
    leads_bind (execute_disciplined config b) (fun _ => takeControl_disciplined))

/-- A run preserves the discipline, however far it gets. -/
theorem loop_disciplined (config : Config) (units : Nat) :
    Leads (fun run run' : Run => run.context.Disciplined → run'.context.Disciplined)
      (loop config units) :=
  loop_leads (turn_disciplined config) units

end Run

/-! ## Events -/

namespace Engine

/-- The stack of the machine and those of all checkpoints are disciplined. -/
structure Disciplined (e : Engine) : Prop where
  stack : ∀ s, e.machine = some s → s.stack.Disciplined
  undo : e.undo.Disciplined

/-- The snapshot that an event puts in force. -/
def restored? (event : Event) (e : Engine) : Option Snapshot :=
  match e.machine, event.save? with
  | some s, some bytes => if s.halted then none else s.readSave? bytes
  | _, _ => none

/-- An event makes a new machine. -/
def Restarts (event : Event) (e : Engine) : Prop :=
  event = .restart ∧ ∃ s, e.fresh = .ok s

theorem ofConfig_disciplined (config : Config) (entropy : Entropy) :
    (ofConfig config entropy).Disciplined where
  stack := by
    intro s hs
    cases hs
  undo := Undo.disciplined_of_empty rfl

variable {e : Engine}

theorem ready_disciplined (h : e.Disciplined) (envelope : Envelope) :
    (ready envelope e).Disciplined := by
  constructor
  · rw [(ready_kept envelope e).1]
    exact h.stack
  · rw [ready_undo]
    cases envelope.env with
    | none => exact h.undo
    | some p => exact h.undo.setDepth _

theorem run_disciplined (h : e.Disciplined) (units : Nat) : (endState (run units e)).Disciplined := by
  cases hmachine : e.machine with
  | none =>
    rw [run_none hmachine]
    exact ⟨h.stack, h.undo⟩
  | some s =>
    have hloop := Run.loop_disciplined e.config units ⟨e.contextOf s, e.cache⟩
      ⟨h.stack s hmachine, h.undo⟩
    rw [run_of_toRun? (toRun?_of_machine hmachine)]
    cases hend : Run.loop e.config units ⟨e.contextOf s, e.cache⟩ with
    | ok control last =>
      rw [hend] at hloop
      exact ⟨fun s' hs' => Option.some.inj hs' ▸ hloop.stack, hloop.undo⟩
    | error fault last =>
      rw [hend] at hloop
      exact ⟨fun s' hs' => Option.some.inj hs' ▸ hloop.stack, hloop.undo⟩

/-- An input preserves the discipline, unless it puts a save without discipline in force. -/
theorem input_disciplined {envelope : Envelope} (hinput : envelope.event.isInput = true)
    (h : e.Disciplined)
    (hrestored : ∀ p, e.restored? envelope.event = some p → p.stack.Disciplined) :
    (endState (begin envelope e)).Disciplined := by
  have hready := ready_disciplined h envelope
  by_cases hhalted : ∃ s, e.machine = some s ∧ s.halted = true
  · obtain ⟨s, hs, hhalted⟩ := hhalted
    rw [begin_of_halted hs hhalted hinput]
    exact hready
  -- every state on the way has a machine of the same story, so each sees the same snapshot
  have hsteps := (take_makes hinput).preserves
    (P := fun e' => e'.Disciplined ∧ e'.core = e.core) ?_ ⟨hready, ready_core envelope e⟩
  · rw [begin_run]
    exact hsteps.1
  rintro e₁ e₂ hchange ⟨he₁, hcore⟩
  refine ⟨?_, hchange.core_eq.trans hcore⟩
  cases hchange with
  | machine hs hc =>
    exact ⟨fun s' hs' => Option.some.inj hs' ▸ hc.disciplined (he₁.stack _ hs), he₁.undo⟩
  | window | journal => exact ⟨he₁.stack, he₁.undo⟩
  | @back s₁ bytes p hs₁ hdata hp =>
    simp only [core, hs₁, Prod.mk.injEq] at hcore
    obtain ⟨s, hs, hidentity⟩ := Option.map_eq_some_iff.1 hcore.2.2.symm
    have hrunning : ¬ s.halted = true := fun hhalt => hhalted ⟨s, hs, hhalt⟩
    rw [← Machine.readSave?_of_identity hidentity] at hp
    have hrestore : e.restored? envelope.event = some p := by
      unfold restored?
      rw [hs, hdata]
      dsimp only
      rw [if_neg hrunning, hp]
    exact ⟨fun s' hs' => Option.some.inj hs' ▸ hrestored p hrestore, he₁.undo⟩

/-- A restart that makes a machine begins anew. -/
theorem restart_disciplined {envelope : Envelope} (h : e.Restarts envelope.event) :
    (endState (begin envelope e)).Disciplined := by
  obtain ⟨event, env⟩ := envelope
  obtain ⟨hevent, s, hfresh⟩ := h
  dsimp only at hevent
  subst hevent
  rw [endState_begin_restart]
  rcases restart_cases (ready ⟨.restart, env⟩ e) with ⟨fault, hrefused, -⟩ | ⟨s', hfresh', hend⟩
  · rw [fresh_ready, hfresh] at hrefused
    cases hrefused
  · obtain ⟨-, -, -, hempty⟩ := fresh_eq_ok hfresh'
    have hstack : s'.stack.Disciplined := hempty ▸ Stack.disciplined_empty
    have hsynced := (Machine.syncHeader_makes (ready ⟨.restart, env⟩ e).config).preserves
      (P := fun s => s.stack.Disciplined) (fun _ _ h => h.disciplined) hstack
    rw [hend]
    exact ⟨fun s hs => Option.some.inj hs ▸ hsynced, Undo.disciplined_of_empty rfl⟩

/-- What comes before the story runs preserves the discipline, unless it puts a save without
discipline in force. -/
theorem begin_disciplined {envelope : Envelope} (h : e.Disciplined)
    (hrestored : ∀ p, e.restored? envelope.event = some p → p.stack.Disciplined) :
    (endState (begin envelope e)).Disciplined := by
  have hready := ready_disciplined h envelope
  by_cases hinput : envelope.event.isInput = true
  · exact input_disciplined hinput h hrestored
  obtain ⟨event, env⟩ := envelope
  cases event with
  | load data =>
    show (load data (ready ⟨.load data, env⟩ e)).Disciplined
    refine ⟨?_, ?_⟩
    · rw [(load_cases data _).1]
      exact hready.stack
    · rw [load_undo]
      exact hready.undo
  | restart =>
    cases hfresh : e.fresh with
    | ok s => exact restart_disciplined ⟨rfl, s, hfresh⟩
    | error fault =>
      rw [endState_begin_restart, restart_of_not_fresh ((fresh_ready _ e).trans hfresh)]
      exact hready
  | restore | read | char | resume => exact absurd rfl hinput

/-- The run after it does so, too. -/
theorem handleWithin_disciplined {envelope : Envelope}
    (h : (endState (begin envelope e)).Disciplined) (units : Config → Nat) :
    (endState (handleWithin units envelope e)).Disciplined := by
  cases hbegin : begin envelope e with
  | error fault e' =>
    rw [hbegin] at h
    rwa [handleWithin_of_fault hbegin]
  | ok answer e' =>
    rw [hbegin] at h
    rw [handleWithin_eq, bind_ok hbegin]
    cases answer with
    | false => exact h
    | true => exact run_disciplined h (units e'.config)

/-- Where a stack without discipline comes from: some event has put a save with such a stack in
force, and no restart has made a machine since. -/
theorem stack_disciplined (config : Config) (entropy : Entropy) (turns : List Turn) :
    (after turns (ofConfig config entropy)).Disciplined ∨
      ∃ before t later p, turns = before ++ t :: later ∧
        (after before (ofConfig config entropy)).restored? t.2.event = some p ∧
        ¬ p.stack.Disciplined ∧
        ∀ middle u rest, later = middle ++ u :: rest →
          ¬ (after (before ++ t :: middle) (ofConfig config entropy)).Restarts u.2.event := by
  induction turns using List.reverseRecOn with
  | nil => exact .inl (ofConfig_disciplined config entropy)
  | append_singleton turns u ih =>
    rw [after_append]
    by_cases hrestarts : (after turns (ofConfig config entropy)).Restarts u.2.event
    · exact .inl (handleWithin_disciplined (restart_disciplined hrestarts) u.1)
    rcases ih with h | ⟨before, t, later, p, hturns, hp, hstack, hsince⟩
    · by_cases hrestored : ∀ p,
          (after turns (ofConfig config entropy)).restored? u.2.event = some p →
            p.stack.Disciplined
      · exact .inl (handleWithin_disciplined (begin_disciplined h hrestored) u.1)
      · obtain ⟨p, hp⟩ := Classical.not_forall.1 hrestored
        obtain ⟨hp, hstack⟩ := Classical.not_imp.1 hp
        refine .inr ⟨turns, u, [], p, rfl, hp, hstack, ?_⟩
        intro middle v rest hnil
        simp at hnil
    · refine .inr ⟨before, t, later ++ [u], p, by simp [hturns], hp, hstack, ?_⟩
      intro middle v rest hsplit
      rcases List.eq_nil_or_concat rest with rfl | ⟨rest, w, rfl⟩
      · obtain ⟨rfl, hlast⟩ := List.append_inj' hsplit rfl
        cases hlast
        rw [← hturns]
        exact hrestarts
      · rw [List.concat_eq_append, ← List.cons_append, ← List.append_assoc] at hsplit
        exact hsince middle v rest (List.append_inj' hsplit rfl).1

/-! ## A save that a host has made up -/

/-- The loop inside a routine with sixteen locals, whose base is above the values. -/
def overgrown : Snapshot where
  release := 0
  serial := Vector.replicate 6 0
  checksum := 0
  pc := 0x40
  storer := none
  memory := .ofList loopStory
  stack := { frames := [⟨0x40, none, List.replicate 16 0, 0, 1⟩] }
  streams := {}

/-- It is restored, and the loop goes on. -/
def overgrownTurns : List Turn :=
  oneByOne [.load loopStory, .restart,
    .restore (overgrown.encode (.ofList loopStory)).toOption none]

theorem stack_not_always_disciplined :
    ¬ ∀ (config : Config) (entropy : Entropy) (turns : List Turn) (s : Machine),
      (after turns (ofConfig config entropy)).machine = some s → s.stack.Disciplined := by
  intro h
  have hstack : (after overgrownTurns (ofConfig {} ⟨0⟩)).machine.map (·.stack) =
      some overgrown.stack := by
    decide +kernel
  have hbroken : ¬ overgrown.stack.Disciplined := by decide
  obtain ⟨s, hs, hsame⟩ := Option.map_eq_some_iff.1 hstack
  exact hbroken (hsame ▸ h {} ⟨0⟩ overgrownTurns s hs)

end Engine
end ZMachine
