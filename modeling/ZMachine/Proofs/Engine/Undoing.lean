import ZMachine.Proofs.Engine.Forgetting

/-!
# The undo history of an engine

A story pushes and pops, new settings change the depth, and a restart clears.  Nothing else happens to
the history of an engine, so it is made of the empty one by actions, and the settings say how much room
it has:

    e.undo = (Undo.ofDepth config.undoDepth).after actions
    e.undo.depth = max 1 e.config.undoDepth

The first makes it the newest part of a stack.  With the second there are at most as many checkpoints as
the settings ask for, or one if they ask for none, between two events and before each block of a run.
-/

namespace ZMachine

theorem Context.Transfer.becomes {c c' : Context} (h : Transfer c c') :
    c.undo.Becomes c'.undo := by
  cases h with
  | change h => exact Undo.becomes_of_eq h.undo_eq
  | jump | request | enter | leave => exact Undo.becomes_refl _
  | keep => exact Undo.becomes_act _ (.push _)
  | drop hpop | back hpop => exact Undo.becomes_of_pop hpop

namespace Run

theorem fetch_keeps_undo : Keeps (fun run : Run => run.context.undo) fetch :=
  fetch_keeps_state.comp Prod.snd

theorem turn_becomes (config : Config) :
    Leads (fun run run' : Run => run.context.undo.Becomes run'.context.undo) (turn config) := by
  have hexecute (b : Block) :
      Leads (fun run run' : Run => run.context.undo.Becomes run'.context.undo)
        (execute config b) := by
    intro run
    rw [endState_execute]
    exact (Block.executeAll_makes config b.instructions).preserves
      (P := fun c => run.context.undo.Becomes c.undo) (fun _ _ h hrun => hrun.trans h.becomes)
      (Undo.becomes_refl _)
  refine leads_bind (fun run => ?_) (fun b => leads_bind (hexecute b) (fun _ run => ?_))
  · exact Undo.becomes_of_eq (fetch_keeps_undo run)
  · exact Undo.becomes_of_eq (takeControl_keeps_undo run)

theorem loop_becomes (config : Config) (units : Nat) :
    Leads (fun run run' : Run => run.context.undo.Becomes run'.context.undo)
      (loop config units) :=
  loop_leads (turn_becomes config) units

/-- Before each block of a run the history is made of the one before the run, and the depth is the
same. -/
theorem undo_of_mem_fetches {loaded : Option Memory} {config : Config} {units : Nat} {run : Run}
    {f : Fetch} (h : f ∈ run.fetches loaded config units) :
    run.context.undo.Becomes f.context.undo ∧
      f.context.undo.depth = run.context.undo.depth ∧ f.config = config := by
  induction units generalizing run with
  | zero => cases h
  | succ units ih =>
    unfold fetches at h
    cases hfetch : fetch run with
    | error fault next =>
      rw [hfetch] at h
      cases h
    | ok block next =>
      rw [hfetch] at h
      rcases List.mem_cons.1 h with rfl | hrest
      · show run.context.undo.Becomes next.context.undo ∧
          next.context.undo.depth = run.context.undo.depth ∧ config = config
        rw [fetch_keeps_undo.of_ok hfetch]
        exact ⟨Undo.becomes_refl _, rfl, rfl⟩
      · cases hturn : turn config run with
        | error fault next =>
          rw [hturn] at hrest
          cases hrest
        | ok control next =>
          rw [hturn] at hrest
          cases control with
          | some control => cases hrest
          | none =>
            obtain ⟨hbecomes, hdepth, hconfig⟩ := ih hrest
            refine ⟨?_, hdepth.trans ?_, hconfig⟩
            · exact ((turn_becomes config).of_ok hturn).trans hbecomes
            · exact (Engine.turn_keeps_depth config).of_ok hturn

end Run

namespace Engine

variable {e : Engine}

/-! ## Events -/

theorem run_becomes (units : Nat) :
    Leads (fun e e' : Engine => e.undo.Becomes e'.undo) (run units) := by
  intro e
  cases hs : e.machine with
  | none =>
    rw [run_none hs]
    exact Undo.becomes_refl _
  | some s =>
    have hloop := Run.loop_becomes e.config units ⟨e.contextOf s, e.cache⟩
    rw [run_of_toRun? (toRun?_of_machine hs)]
    cases hend : Run.loop e.config units ⟨e.contextOf s, e.cache⟩ <;> rwa [hend] at hloop

theorem ready_becomes (envelope : Envelope) (e : Engine) :
    e.undo.Becomes (ready envelope e).undo := by
  rw [ready_undo]
  cases envelope.env with
  | none => exact Undo.becomes_refl _
  | some p => exact Undo.becomes_act _ (.setDepth _)

theorem take_becomes (event : Event) :
    Leads (fun e e' : Engine => e.undo.Becomes e'.undo) (take event) := by
  intro e
  by_cases hinput : event.isInput = true
  · have hundo : Keeps Engine.undo (take event) :=
      (take_makes hinput).keeps (fun _ _ h => h.undo_eq)
    exact Undo.becomes_of_eq (hundo e)
  cases event with
  | load data => exact Undo.becomes_of_eq (load_undo data e)
  | restart =>
    show e.undo.Becomes (endState ((restart >>= fun _ => pure true) e)).undo
    refine leads_bind_at (R := fun e e' : Engine => e.undo.Becomes e'.undo) ?_
      (fun _ => leads_pure true)
    rcases restart_cases e with ⟨fault, -, hsame⟩ | ⟨s, -, hmade⟩
    · rw [hsame]
      exact Undo.becomes_refl _
    · rw [hmade]
      exact Undo.becomes_act _ .clear
  | restore | read | char | resume => exact absurd rfl hinput

theorem begin_becomes (envelope : Envelope) :
    Leads (fun e e' : Engine => e.undo.Becomes e'.undo) (begin envelope) := by
  intro e
  rw [begin_run]
  exact (ready_becomes envelope e).trans (take_becomes envelope.event _)

theorem handleWithin_becomes (units : Config → Nat) (envelope : Envelope) :
    Leads (fun e e' : Engine => e.undo.Becomes e'.undo) (handleWithin units envelope) := by
  rw [handleWithin_eq]
  refine leads_bind (begin_becomes envelope) (fun goes => ?_)
  cases goes with
  | false => exact leads_pure []
  | true => exact leads_get_bind (fun e => run_becomes (units e.config) e)

/-- There is always room for the checkpoints that are kept. -/
theorem after_fits (config : Config) (entropy : Entropy) (turns : List Turn) :
    (after turns (ofConfig config entropy)).undo.Fits := by
  have hafter : ∀ e : Engine, e.undo.Fits → (after turns e).undo.Fits := by
    induction turns with
    | nil => exact fun _ h => h
    | cons t rest ih => exact fun e h => ih _ ((handleWithin_becomes t.1 t.2 e).fits h)
  exact hafter _ (Undo.fits_ofDepth _)

/-! ## Hosts -/

/-- What a host does with an engine: it has an event handled, or gives new settings between two
events. -/
inductive Use where
  | event (t : Turn)
  | settings (p : Patch)

/-- The engine after that. -/
def use (e : Engine) : Use → Engine
  | .event t => endState (handleWithin t.1 t.2 e)
  | .settings p => e.updateEnv p

/-- The engine after a host has done several things with it. -/
def used (e : Engine) (uses : List Use) : Engine :=
  uses.foldl use e

theorem used_becomes (e : Engine) (uses : List Use) : e.undo.Becomes (e.used uses).undo := by
  induction uses generalizing e with
  | nil => exact Undo.becomes_refl _
  | cons first rest ih =>
    refine Undo.Becomes.trans ?_ (ih (e.use first))
    cases first with
    | event t => exact handleWithin_becomes t.1 t.2 e
    | settings p => exact Undo.becomes_act _ (.setDepth _)

theorem Roomy.used (h : e.Roomy) (uses : List Use) : (e.used uses).Roomy := by
  induction uses generalizing e with
  | nil => exact h
  | cons first rest ih =>
    refine ih (e := e.use first) ?_
    cases first with
    | event t => exact handleWithin_roomy t.1 t.2 h
    | settings p => rfl

/-- Before each block that is executed for an event, the history is one that fits, with the depth that
the settings ask for. -/
theorem undo_of_mem_fetches {units : Config → Nat} {envelope : Envelope} {f : Fetch}
    (hroomy : e.Roomy) (hfits : e.undo.Fits) (h : f ∈ fetches units envelope e) :
    f.context.undo.Fits ∧ f.context.undo.depth = max 1 f.config.undoDepth := by
  obtain ⟨e', run, hbegin, hrun, hf⟩ := mem_fetches h
  obtain ⟨s, hs, rfl⟩ := toRun?_eq_some hrun
  obtain ⟨hbecomes, hdepth, hconfig⟩ := Run.undo_of_mem_fetches hf
  have hbegun : (endState (begin envelope e)).Roomy := begin_roomy hroomy
  rw [hbegin] at hbegun
  refine ⟨hbecomes.fits (((begin_becomes envelope).of_ok hbegin).fits hfits), ?_⟩
  rw [hdepth, hconfig]
  exact hbegun

/-- **The undo history is a bounded stack.**  Whatever is done with a history, it is the newest part of
the stack that keeps everything, its depth is what was asked for last and at least one, and it loses
the oldest checkpoints only, and only those there is no room for.  The history of an engine is such a
one, whatever a host has done with it, and the settings say how deep it is. -/
theorem undo_bounded_stack :
    (∀ (depth : Nat) (actions : List Undo.Action),
      let u := (Undo.ofDepth depth).after actions
      u.NewestOf (Undo.Action.stack actions) ∧
      u.depth = max 1 (actions.foldl Undo.Action.asked depth) ∧
      ((∀ before a later, actions = before ++ a :: later →
          ¬ ((Undo.ofDepth depth).after before).Exceeds a) →
        u.entries = Undo.Action.stack actions)) ∧
    ∀ (config : Config) (entropy : Entropy) (uses : List Use),
      let e := (ofConfig config entropy).used uses
      (∃ actions, e.undo = (Undo.ofDepth config.undoDepth).after actions) ∧
      e.undo.depth = max 1 e.config.undoDepth ∧ e.undo.length ≤ max 1 e.config.undoDepth ∧
      ∀ (units : Config → Nat) (envelope : Envelope), ∀ f ∈ fetches units envelope e,
        f.context.undo.depth = max 1 f.config.undoDepth ∧
        f.context.undo.length ≤ max 1 f.config.undoDepth := by
  refine ⟨fun depth actions => ⟨Undo.after_newestOf depth actions, Undo.after_depth depth actions,
    Undo.after_entries_of_room⟩, fun config entropy uses => ?_⟩
  intro e
  have hbecomes : (Undo.ofDepth config.undoDepth).Becomes e.undo :=
    used_becomes (ofConfig config entropy) uses
  have hfits : e.undo.Fits := hbecomes.fits (Undo.fits_ofDepth config.undoDepth)
  have hroomy : e.Roomy := Roomy.used (e := ofConfig config entropy) rfl uses
  refine ⟨hbecomes, hroomy, hroomy ▸ hfits.2, fun units envelope f hf => ?_⟩
  obtain ⟨hroom, hdepth⟩ := undo_of_mem_fetches hroomy hfits hf
  exact ⟨hdepth, hdepth ▸ hroom.2⟩

/-- A story that saves twice and then goes round. -/
def twiceSavedStory : List UInt8 :=
  storyOf [0xBE, 9, 0xFF, 0, 0xBE, 9, 0xFF, 0, 0x8C, 0xFF, 0xFF]

/-- It is loaded and started, but does not run yet. -/
def twiceSavedUses : List Use :=
  [.event (fun _ => 0, ⟨.load twiceSavedStory, none⟩), .settings { width := some 40 },
    .event (fun _ => 0, ⟨.restart, none⟩)]

/-- Where no checkpoint is asked for one is kept all the same, and the second takes the place of the
first. -/
theorem undo_bounded_stack_twiceSaved :
    let e := (ofConfig { undoDepth := 0 } ⟨0⟩).used twiceSavedUses
    let later := fetches (fun _ => 3) ⟨.resume none, none⟩ e
    e.undo.depth = max 1 e.config.undoDepth ∧ e.config.undoDepth = 0 ∧
      later.map (·.context.undo.length) = [0, 1, 1] ∧
      ∀ f ∈ later, f.context.undo.length ≤ max 1 f.config.undoDepth := by
  intro e later
  obtain ⟨-, hdepth, -, hfetches⟩ := undo_bounded_stack.2 { undoDepth := 0 } ⟨0⟩ twiceSavedUses
  exact ⟨hdepth, by decide +kernel, by decide +kernel,
    fun f hf => (hfetches (fun _ => 3) ⟨.resume none, none⟩ f hf).2⟩

end Engine
end ZMachine
