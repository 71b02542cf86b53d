import ZMachine.Proofs.Engine.Checkpoint
import ZMachine.Proofs.Engine.Restart

/-!
# Undo, whatever the host does

The undo history belongs to the engine, but it has to fit the machine, which a restart replaces, a
restore overwrites and a load of another story leaves alone; and new settings cut it in between.  A
restart takes down all saves that stand, and no other event touches them:

    restart makes a machine     saves ↦ []
    any other event             saves ↦ saves, then what the story does with them

So undo never fails, as long as every restart that made a machine has brought its header up to date.
-/

namespace ZMachine

open Visit

/-- The visits of a block that is executed. -/
def Fetch.visits (f : Fetch) : List Visit :=
  Block.visits f.config f.block.instructions f.context

/-- The instructions that are executed while an event is handled. -/
def Engine.visits (units : Config → Nat) (envelope : Envelope) (e : Engine) : List Visit :=
  (fetches units envelope e).flatMap Fetch.visits

/-! ## The history and a run -/

namespace Run

/-- How a run that tracks the saves ends. -/
def EndsWith {α : Type} (saves : List Visit) : EStateM.Result Fault Run α → Prop
  | .ok _ run => run.context.undo.Follows run.context.machine saves ∧ ∀ v ∈ saves, v.Stored
  | .error _ run => run.context.undo.Follows run.context.machine saves

theorem takeControl_keeps_undo : Keeps (fun run : Run => run.context.undo) takeControl := by
  rintro ⟨context, cache⟩
  unfold takeControl
  dsimp only
  split <;> rfl

/-- The visits of the next block of a run. -/
def turnVisits (config : Config) (run : Run) : List Visit :=
  match fetch run with
  | .ok b next => Block.visits config b.instructions next.context
  | .error _ _ => []

theorem visits_succ (loaded : Option Memory) (config : Config) (units : Nat) (run : Run) :
    (run.fetches loaded config (units + 1)).flatMap Fetch.visits =
      turnVisits config run ++ match turn config run with
        | .ok none next => (next.fetches loaded config units).flatMap Fetch.visits
        | _ => [] := by
  rw [fetches]
  unfold turnVisits
  cases hfetch : fetch run with
  | error e next =>
    have hturn : turn config run = .error e next := bind_error hfetch
    rw [hturn]
    rfl
  | ok b next =>
    rw [List.flatMap_cons]
    refine congrArg (Block.visits config b.instructions next.context ++ ·) ?_
    cases turn config run with
    | error e last => rfl
    | ok control last => cases control <;> rfl

theorem turn_tracks (config : Config) {run : Run} {saves : List Visit}
    (h : run.context.Tracks saves) :
    AllGoBack saves (turnVisits config run) ∧
      EndsWith (standing saves (turnVisits config run)) (turn config run) ∧
      ∀ next, turn config run = .ok none next →
        next.context.Tracks (standing saves (turnVisits config run)) := by
  have hstate := fetch_keeps_state run
  unfold turnVisits turn
  cases hfetch : fetch run with
  | error e next =>
    rw [hfetch, endState_error, Prod.mk.injEq] at hstate
    rw [bind_error hfetch]
    refine ⟨allGoBack_nil saves, ?_, fun _ => nofun⟩
    show next.context.undo.Follows next.context.machine saves
    rw [hstate.1, hstate.2]
    exact h.follows
  | ok b fetched =>
    rw [hfetch, endState_ok, Prod.mk.injEq] at hstate
    have hfetched : fetched.context.Tracks saves :=
      ⟨by rw [hstate.1, hstate.2]; exact h.follows, by rw [hstate.1]; exact h.running, h.stored⟩
    obtain ⟨hback, hends⟩ := Block.executeAll_tracks config b.instructions hfetched
    have hexecute := execute_run config b fetched
    rw [bind_ok hfetch]
    refine ⟨hback, ?_⟩
    cases hrun : b.execute config fetched.context with
    | error e c =>
      rw [show Block.executeAll config b.instructions fetched.context = _ from hrun] at hends
      rw [hrun] at hexecute
      rw [bind_error hexecute]
      exact ⟨hends, fun _ => nofun⟩
    | ok u c =>
      rw [show Block.executeAll config b.instructions fetched.context = _ from hrun] at hends
      rw [hrun] at hexecute
      rw [bind_ok hexecute]
      -- taking the request can halt the machine, but then the run is over
      cases htake : takeControl { fetched with context := c } with
      | error e last => cases htake
      | ok control last =>
        have horigin : last.context.machine.origin = c.machine.origin :=
          congrArg Prod.fst (takeControl_keeps.of_ok htake)
        have hundo : last.context.undo = c.undo := takeControl_keeps_undo.of_ok htake
        refine ⟨⟨hundo ▸ hends.follows.of_origin horigin, hends.stored⟩, fun next hnone => ?_⟩
        · cases hnone
          rw [takeControl_none (takeControl_fst htake)] at htake
          cases htake
          exact hends

/-- A run tracks the saves, and whatever goes back on the way ends in the newest of them. -/
theorem loop_tracks (loaded : Option Memory) (config : Config) (units : Nat) :
    ∀ {run : Run} {saves : List Visit}, run.context.Tracks saves →
      AllGoBack saves ((run.fetches loaded config units).flatMap Fetch.visits) ∧
        EndsWith (standing saves ((run.fetches loaded config units).flatMap Fetch.visits))
          (loop config units run) := by
  induction units with
  | zero => exact fun {run saves} h => ⟨allGoBack_nil saves, h.follows, h.stored⟩
  | succ units ih =>
    intro run saves h
    obtain ⟨hback, hends, hnext⟩ := turn_tracks config h
    rw [visits_succ]
    unfold loop
    cases hturn : turn config run with
    | error e last =>
      rw [hturn] at hends
      rw [bind_error hturn, List.append_nil]
      exact ⟨hback, hends⟩
    | ok control last =>
      rw [hturn] at hends
      rw [bind_ok hturn]
      cases control with
      | some order =>
        rw [List.append_nil]
        exact ⟨hback, hends⟩
      | none =>
        obtain ⟨hrest, hlast⟩ := ih (hnext last hturn)
        rw [standing_append]
        exact ⟨hback.append hrest, hlast⟩

end Run

/-! ## The history and events -/

namespace Engine

/-- The history follows the saves that stand, and the results of these were stored unless the machine
has halted.  Without a machine there are none. -/
structure Tracks (e : Engine) (saves : List Visit) : Prop where
  absent : e.machine = none → saves = [] ∧ e.undo.entries = []
  follows : ∀ s, e.machine = some s → e.undo.Follows s saves
  stored : ∀ s, e.machine = some s → s.halted = false → ∀ v ∈ saves, v.Stored

/-- The saves that still stand when an event has begun: none if it makes a machine. -/
def carried (event : Event) (e : Engine) (saves : List Visit) : List Visit :=
  match event, e.fresh with
  | .restart, .ok _ => []
  | _, _ => saves

/-- The saves that stand after some events. -/
def savesAfter : List Turn → Engine → List Visit → List Visit
  | [], _, saves => saves
  | t :: rest, e, saves =>
    savesAfter rest (endState (handleWithin t.1 t.2 e))
      (standing (carried t.2.event e saves) (visits t.1 t.2 e))

/-- If an event is a restart and makes a machine, the header of this is brought up to date. -/
def Syncs (envelope : Envelope) (e : Engine) : Prop :=
  envelope.event = .restart → ∀ s, e.fresh = .ok s → fault? (begin envelope e) = none

/-- Every restart that makes a machine brings its header up to date. -/
def Synced : List Turn → Engine → Prop
  | [], _ => True
  | t :: rest, e => Syncs t.2 e ∧ Synced rest (endState (handleWithin t.1 t.2 e))

variable {e e' : Engine} {saves : List Visit}

theorem carried_input {event : Event} (hinput : event.isInput = true) (e : Engine)
    (saves : List Visit) : carried event e saves = saves := by
  cases event with
  | load | restart => cases hinput
  | restore | read | char | resume => rfl

/-- The machine is known up to what never changes. -/
theorem Tracks.of_identity (h : e.Tracks saves)
    (hmachine : e'.machine.map Machine.identity = e.machine.map Machine.identity)
    (hundo : e'.undo = e.undo) : e'.Tracks saves := by
  have hsame {s' : Machine} (hs' : e'.machine = some s') :
      ∃ s, e.machine = some s ∧ s'.identity = s.identity := by
    rw [hs'] at hmachine
    obtain ⟨s, hs, hidentity⟩ := Option.map_eq_some_iff.1 hmachine.symm
    exact ⟨s, hs, hidentity.symm⟩
  refine ⟨fun hnone => ?_, fun s' hs' => ?_, fun s' hs' hrunning => ?_⟩
  · rw [hnone] at hmachine
    rw [hundo]
    exact h.absent (Option.map_eq_none_iff.1 hmachine.symm)
  · obtain ⟨s, hs, hidentity⟩ := hsame hs'
    rw [hundo]
    exact (h.follows s hs).of_origin (Machine.origin_of_identity hidentity)
  · obtain ⟨s, hs, hidentity⟩ := hsame hs'
    have hhalted : s'.halted = s.halted := congrArg (·.2.2.1) hidentity
    exact h.stored s hs (hhalted.symm.trans hrunning)

theorem ready_tracks (h : e.Tracks saves) (envelope : Envelope) :
    (ready envelope e).Tracks saves := by
  obtain ⟨hmachine, -, -⟩ := ready_kept envelope e
  have hundo := ready_undo envelope e
  cases henv : envelope.env with
  | none =>
    rw [henv] at hundo
    exact h.of_identity (congrArg _ hmachine) hundo
  | some p =>
    rw [henv] at hundo
    refine ⟨fun hnone => ?_, fun s hs => ?_, fun s hs => ?_⟩
    · obtain ⟨hsaves, hentries⟩ := h.absent (hmachine ▸ hnone)
      refine ⟨hsaves, ?_⟩
      rw [hundo]
      show e.undo.entries.take _ = []
      rw [hentries, List.take_nil]
    · rw [hundo]
      exact (h.follows s (hmachine ▸ hs)).setDepth _
    · exact h.stored s (hmachine ▸ hs)

theorem Change.undo_eq {data : Option (List UInt8)} (h : Change data e e') : e'.undo = e.undo := by
  cases h <;> rfl

/-- A restart that makes a machine and brings its header up to date begins without saves. -/
theorem restart_tracks {s : Machine} (hfresh : e.fresh = .ok s)
    (hsyncs : fault? (restart e) = none) : (endState (restart e)).Tracks [] := by
  have hfit : s.header.FlagsFit s.memory.size := by
    refine (restart_eq_ok_iff hfresh).1 ?_
    cases hrestart : restart e with
    | ok u e' => exact ⟨e', rfl⟩
    | error fault e' =>
      rw [hrestart] at hsyncs
      cases hsyncs
  rcases restart_cases e with ⟨fault, hrefused, -⟩ | ⟨s', hfresh', hend⟩
  · rw [hfresh] at hrefused
    cases hrefused
  obtain rfl : s = s' := Except.ok.inj (hfresh.symm.trans hfresh')
  have hfollows : (e.install s).undo.Follows s [] :=
    ⟨List.nil_prefix, fun v hv => (by cases hv), layout_le_of_fresh hfresh, hfit⟩
  rw [hend]
  refine ⟨fun hnone => ?_, fun s' hs' => ?_, fun s' _ _ v hv => ?_⟩
  · cases hnone
  · cases hs'
    exact hfollows.of_origin (Machine.origin_of_identity (syncHeader_identity e.config s))
  · cases hv

/-- Before the story runs no save is added, and only a restart takes them all away. -/
theorem begin_tracks {envelope : Envelope} (h : e.Tracks saves) (hsyncs : Syncs envelope e) :
    (endState (begin envelope e)).Tracks (carried envelope.event e saves) := by
  have hready := ready_tracks h envelope
  by_cases hinput : envelope.event.isInput = true
  -- an input may put a save in force, but only one of the same story and size
  · have hcore := begin_keeps_core hinput e
    rw [← ready_core envelope e] at hcore
    rw [carried_input hinput]
    refine hready.of_identity (congrArg (·.2.2) hcore) ?_
    rw [begin_run]
    exact (take_makes hinput).keeps (fun _ _ h => h.undo_eq) _
  obtain ⟨event, env⟩ := envelope
  cases event with
  | load data =>
    exact hready.of_identity (congrArg _ (load_cases data _).1) (load_undo data _)
  | restart =>
    unfold carried
    rw [endState_begin_restart]
    have hsame := fresh_ready ⟨.restart, env⟩ e
    cases hfresh : e.fresh with
    | error fault =>
      rw [restart_of_not_fresh (hsame.trans hfresh)]
      exact hready
    | ok s =>
      refine restart_tracks (hsame.trans hfresh) ?_
      have hfault := hsyncs rfl s hfresh
      rw [begin_restart] at hfault
      cases hrestart : restart (ready ⟨.restart, env⟩ e) with
      | ok u e' => rfl
      | error fault e' =>
        rw [bind_error hrestart] at hfault
        cases hfault
  | restore | read | char | resume => exact absurd rfl hinput

/-- A run on a machine that is not halted. -/
theorem run_tracks {s : Machine} (h : e.Tracks saves) (hs : e.machine = some s)
    (hrunning : s.halted = false) (units : Nat) :
    let visits := (Run.fetches e.story e.config units ⟨e.contextOf s, e.cache⟩).flatMap Fetch.visits
    AllGoBack saves visits ∧ (endState (run units e)).Tracks (standing saves visits) := by
  intro visits
  have hstart : (Run.mk (e.contextOf s) e.cache).context.Tracks saves :=
    ⟨h.follows s hs, hrunning, h.stored s hs hrunning⟩
  obtain ⟨hback, hends⟩ := Run.loop_tracks e.story e.config units hstart
  refine ⟨hback, ?_⟩
  rw [run_of_toRun? (toRun?_of_machine hs)]
  cases hloop : Run.loop e.config units ⟨e.contextOf s, e.cache⟩ with
  | ok control last =>
    rw [hloop] at hends
    exact ⟨nofun, fun s' hs' => Option.some.inj hs' ▸ hends.1, fun _ _ _ => hends.2⟩
  | error fault last =>
    rw [hloop] at hends
    refine ⟨nofun, fun s' hs' => ?_, fun s' hs' hrunning => ?_⟩
    · cases hs'
      exact Undo.Follows.of_origin hends rfl
    · cases hs'
      cases hrunning

/-- Whatever goes back while an event is handled ends in the newest save that stands. -/
theorem handleWithin_tracks (h : e.Tracks saves) (units : Config → Nat) (envelope : Envelope) :
    AllGoBack (carried envelope.event e saves) (visits units envelope e) ∧
      (Syncs envelope e → (endState (handleWithin units envelope e)).Tracks
        (standing (carried envelope.event e saves) (visits units envelope e))) := by
  have hnone (hfetches : fetches units envelope e = []) : visits units envelope e = [] := by
    unfold visits
    rw [hfetches]
    rfl
  cases hbegin : begin envelope e with
  | error fault e' =>
    rw [hnone (by unfold fetches; rw [hbegin])]
    refine ⟨allGoBack_nil _, fun hsyncs => ?_⟩
    have hbegun := begin_tracks h hsyncs
    rw [hbegin] at hbegun
    rw [handleWithin_of_fault hbegin]
    exact hbegun
  | ok goes e' =>
    have hsyncs : Syncs envelope e := fun _ _ _ => by rw [hbegin]; rfl
    have hbegun := begin_tracks h hsyncs
    rw [hbegin, endState_ok] at hbegun
    rw [handleWithin_eq, bind_ok hbegin]
    cases goes with
    | false =>
      rw [hnone (by unfold fetches; rw [hbegin])]
      exact ⟨allGoBack_nil _, fun _ => hbegun⟩
    | true =>
      obtain ⟨s, hs, hrunning⟩ := begin_running hbegin
      have hvisits : visits units envelope e =
          (Run.fetches e'.story e'.config (units e'.config) ⟨e'.contextOf s, e'.cache⟩).flatMap
            Fetch.visits := by
        unfold visits fetches
        rw [hbegin]
        dsimp only
        rw [toRun?_of_machine hs]
      obtain ⟨hback, hafter⟩ := run_tracks hbegun hs hrunning (units e'.config)
      rw [hvisits]
      exact ⟨hback, fun _ => hafter⟩

theorem ofConfig_tracks (config : Config) (entropy : Entropy) : (ofConfig config entropy).Tracks [] :=
  ⟨fun _ => ⟨rfl, rfl⟩, nofun, nofun⟩

theorem after_tracks {turns : List Turn} :
    ∀ {e : Engine} {saves : List Visit}, e.Tracks saves → Synced turns e →
      (after turns e).Tracks (savesAfter turns e saves) := by
  induction turns with
  | nil => exact fun h _ => h
  | cons t rest ih => exact fun h hsynced => ih ((handleWithin_tracks h t.1 t.2).2 hsynced.1) hsynced.2

/-- Undo never fails and goes back to its checkpoint.  If every restart that made a machine brought its
header up to date, then every entry of the history belongs to the story of the machine and has the size
of its memory.  And whenever an instruction goes back, it does so without a fault: it takes the newest
entry from the history, and the machine is the one on which the newest save that stands was performed,
but for the header and the result of that save. -/
theorem undo_goes_back (config : Config) (entropy : Entropy) (turns : List Turn)
    (hsynced : Synced turns (ofConfig config entropy)) :
    let e := after turns (ofConfig config entropy)
    (∀ p ∈ e.undo.entries, ∃ s, e.machine = some s ∧ p.belongsTo s.header = true ∧
      p.memory.size = s.memory.size) ∧
    ∀ (units : Config → Nat) (envelope : Envelope),
      AllGoBack (carried envelope.event e (savesAfter turns (ofConfig config entropy) []))
        (visits units envelope e) := by
  intro e
  have htracks := after_tracks (ofConfig_tracks config entropy) hsynced
  refine ⟨fun p hp => ?_, fun units envelope => (handleWithin_tracks htracks units envelope).1⟩
  cases hmachine : e.machine with
  | none =>
    rw [(htracks.absent hmachine).2] at hp
    cases hp
  | some s => exact ⟨s, rfl, (htracks.follows s hmachine).matching hp⟩

/-- A story that saves, goes back and quits, with both results on the stack. -/
def undoingStory : List UInt8 :=
  storyOf [0xBE, 9, 0xFF, 0, 0xBE, 10, 0xFF, 0, 0xBA]

/-- The story is loaded and started, but does not run yet. -/
def undoingTurns : List Turn :=
  [(fun _ => 0, ⟨.load undoingStory, none⟩), (fun _ => 0, ⟨.restart, none⟩)]

theorem undo_goes_back_once :
    ∃ save v s, visits (fun _ => 2) ⟨.resume none, none⟩
        (after undoingTurns (ofConfig {} ⟨0⟩)) = [save, v] ∧
      (do Machine.syncHeader v.config
          Machine.store save.instruction.store 2) save.context.machine = .ok () s ∧
      v.context.machine.stack.values = #[1] ∧ v.performed = .ok () { v.context with
        machine := s
        undo := { v.context.undo with entries := [] } } ∧
      s.pc = 0x44 ∧ s.stack.values = #[2] := by
  have hsynced : Synced undoingTurns (ofConfig {} ⟨0⟩) := by
    refine ⟨nofun, fun _ _ _ => ?_, trivial⟩
    decide +kernel
  have hsaves : savesAfter undoingTurns (ofConfig {} ⟨0⟩) [] = [] := by
    refine List.eq_nil_of_length_eq_zero ?_
    decide +kernel
  have hfacts : (visits (fun _ => 2) ⟨.resume none, none⟩
      (after undoingTurns (ofConfig {} ⟨0⟩))).map (fun v =>
        (v.instruction.opcode, v.context.undo.length, v.context.machine.stack.values,
          (endState v.performed).machine.pc, (endState v.performed).machine.stack.values)) =
      [(.saveUndo, 0, #[], 0x44, #[1]), (.restoreUndo, 1, #[1], 0x44, #[2])] := by
    decide +kernel
  obtain ⟨save, _, hvisits, hsave, hrest⟩ := List.map_eq_cons_iff.1 hfacts
  obtain ⟨v, _, rfl, hv, hnil⟩ := List.map_eq_cons_iff.1 hrest
  obtain rfl := List.map_eq_nil_iff.1 hnil
  simp only [Prod.mk.injEq] at hsave hv
  obtain ⟨hop, hlength, hvalues, hpc, hlast⟩ := hv
  have hstanding : standing (carried (.resume none) (after undoingTurns (ofConfig {} ⟨0⟩))
      (savesAfter undoingTurns (ofConfig {} ⟨0⟩) [])) [save] = [save] := by
    rw [carried_input rfl, hsaves, standing_save hsave.1]
  have hgoes := (undo_goes_back {} ⟨0⟩ undoingTurns hsynced).2 (fun _ => 2) ⟨.resume none, none⟩
    [save] v [] hvisits hop
  obtain ⟨p, hentries⟩ := List.length_eq_one_iff.1 hlength
  rw [hstanding] at hgoes
  unfold GoesBack at hgoes
  rw [hentries] at hgoes
  obtain ⟨_, _, s, hnewest, -, -, -, hmachine, hperformed⟩ := hgoes
  cases hnewest
  rw [hperformed] at hpc hlast
  exact ⟨save, v, s, hvisits, hmachine, hvalues, hperformed, hpc, hlast⟩

end Engine
end ZMachine
