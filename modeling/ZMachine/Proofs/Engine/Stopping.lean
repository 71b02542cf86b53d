import ZMachine.Proofs.Engine.Halting
import ZMachine.Proofs.Engine.Slicing
import ZMachine.Proofs.Engine.Undoing

/-!
# Stories that have stopped

A story stops when it quits or when its run fails.  From then on the engine takes loads and restarts
only.  Whatever else the host sends is refused before anything is done for it:

    handleWithin units envelope e = .error .halted e'      nothing is executed
    e'.machine = e.machine,  e'.cache = e.cache            the checkpoints too, if there is room for them

A load does not bring the machine back, so this lasts until a restart.  The screen of a restart is a
new one, and its batch holds what was told to that screen and nothing from before.
-/

namespace ZMachine

namespace Run

/-- A machine whose story quits is halted. -/
theorem loop_quit {config : Config} {units : Nat} {run last : Run}
    (h : loop config units run = .ok .quit last) : last.context.machine.halted = true := by
  induction units generalizing run with
  | zero => cases h
  | succ units ih =>
    unfold loop at h
    obtain ⟨control, next, hturn, hrest⟩ := bind_eq_ok h
    cases control with
    | none => exact ih hrest
    | some order =>
      cases hrest
      unfold turn at hturn
      obtain ⟨b, fetched, -, hturn⟩ := bind_eq_ok hturn
      obtain ⟨u, ⟨context, cache⟩, -, htake⟩ := bind_eq_ok hturn
      have hcontrol : context.control = some .quit := takeControl_fst htake
      unfold takeControl at htake
      dsimp only at htake
      rw [if_pos hcontrol] at htake
      exact (EStateM.Result.ok.inj htake).2 ▸ rfl

end Run

namespace Engine

variable {e : Engine}

/-! ## Stopping -/

/-- The story stops while an event is handled: its batch ends with a quit, or its run fails. -/
def Stops (t : Turn) (e : Engine) : Prop :=
  (∃ orders e', handleWithin t.1 t.2 e = .ok orders e' ∧ orders.getLast? = some .quit) ∨
    ∃ e' fault e'', begin t.2 e = .ok true e' ∧ run (t.1 e'.config) e' = .error fault e''

/-- The machine is halted then. -/
theorem halted_of_stops {t : Turn} (h : Stops t e) :
    ∃ s, (endState (handleWithin t.1 t.2 e)).machine = some s ∧ s.halted = true := by
  rcases h with ⟨orders, e', hhandle, hquit⟩ | ⟨e', fault, e'', hbegin, hrun⟩
  · rw [hhandle, endState_ok]
    rcases handleWithin_eq_ok hhandle with ⟨rfl, -⟩ | ⟨e₁, -, hrun⟩
    · cases hquit
    · obtain ⟨r, control, last, -, hloop, rfl, rfl⟩ := run_eq_ok hrun
      rw [deliver_getLast?] at hquit
      obtain rfl : control = .quit := Option.some.inj hquit
      exact ⟨_, rfl, Run.loop_quit hloop⟩
  · obtain ⟨s, hs, -⟩ := begin_running hbegin
    have hhandle : handleWithin t.1 t.2 e = .error fault e'' := by
      rw [handleWithin_eq, bind_ok hbegin]
      exact hrun
    rw [hhandle, endState_error]
    exact halted_of_run_error hs hrun

/-! ## Refusing -/

/-- An input is refused: it fails, no block is looked up or executed for it, and the machine, the
blocks and the checkpoints stay.  Only where the settings that come with it leave room for fewer
checkpoints, the oldest ones are dropped. -/
structure Refused (t : Turn) (e e' : Engine) : Prop where
  fails : handleWithin t.1 t.2 e = .error .halted e'
  nothing_runs : fetches t.1 t.2 e = []
  machine_eq : e'.machine = e.machine
  cache_eq : e'.cache = e.cache
  config_eq : e'.config = t.2.env.elim e.config e.config.apply
  newest_stay : e'.undo.entries = e.undo.entries.take e'.undo.depth
  all_stay : e.config.undoDepth ≤ e'.config.undoDepth → e'.undo.entries = e.undo.entries

theorem ready_config (envelope : Envelope) (e : Engine) :
    (ready envelope e).config = envelope.env.elim e.config e.config.apply := by
  unfold ready prepare
  cases envelope.env <;> rfl

/-- A machine that is halted has every input refused. -/
theorem refused_of_halted {s : Machine} (hs : e.machine = some s) (hhalted : s.halted = true)
    (hroomy : e.Roomy) (hfits : e.undo.Fits) {t : Turn} (hinput : t.2.event.isInput = true) :
    Refused t e (ready t.2 e) where
  fails := handleWithin_of_halted hs hhalted hinput t.1
  nothing_runs := by
    unfold fetches
    rw [begin_of_halted hs hhalted hinput]
  machine_eq := (ready_kept t.2 e).1
  cache_eq := (ready_kept t.2 e).2.2
  config_eq := ready_config t.2 e
  newest_stay := by
    rw [ready_undo]
    cases t.2.env with
    | none => exact (List.take_of_length_le hfits.2).symm
    | some p => rfl
  all_stay := by
    intro hdepth
    rw [ready_config] at hdepth
    rw [ready_undo]
    cases henv : t.2.env with
    | none => rfl
    | some p =>
      rw [henv] at hdepth
      change e.config.undoDepth ≤ (e.config.apply p).undoDepth at hdepth
      refine hfits.setDepth_entries ?_
      rw [hroomy]
      omega

/-- A load is taken in, but the machine stays. -/
theorem handleWithin_load (units : Config → Nat) (data : List UInt8) (env : Option Patch)
    (e : Engine) : ∃ e', handleWithin units ⟨.load data, env⟩ e = .ok [] e' ∧
      e'.machine = e.machine ∧ e'.story = some (.ofList data) := by
  obtain ⟨hmachine, hstory, -⟩ := load_cases data (ready ⟨.load data, env⟩ e)
  exact ⟨load data (ready ⟨.load data, env⟩ e), rfl,
    hmachine.trans (ready_kept ⟨.load data, env⟩ e).1, hstory⟩

/-- The batch of a restart is all of a new screen, after what was told to it since. -/
theorem restart_batch {units : Config → Nat} {env : Option Patch} {e' : Engine}
    {orders : List Order} (h : handleWithin units ⟨.restart, env⟩ e = .ok orders e') :
    ∃ control, orders =
      (deliver control (Window.play (calls units ⟨.restart, env⟩ e) {})).1 := by
  rcases handleWithin_eq_ok h with ⟨-, -, data, hload⟩ | ⟨e'', hbegin, hrun⟩
  · cases hload
  · obtain ⟨r, control, last, hr, hloop, rfl, -⟩ := run_eq_ok hrun
    refine ⟨control, ?_⟩
    rw [closing_window hbegin hr hloop]
    rfl

/-- A story that has stopped does not go on before a restart.  Whatever events come, as long as there
is no restart among them, the machine stays as it is, every load is taken in, and every input is
refused.  Whatever comes before it, the batch of a restart that succeeds holds only what was told to
its own screen. -/
theorem stopped_until_restart (config : Config) (entropy : Entropy) (turns : List Turn) (t : Turn)
    (h : Stops t (after turns (ofConfig config entropy))) :
    (∃ s, s.halted = true ∧
      ∀ later : List Turn, (∀ u ∈ later, u.2.event ≠ .restart) →
        (after (turns ++ t :: later) (ofConfig config entropy)).machine = some s ∧
        ∀ (units : Config → Nat) (env : Option Patch),
          (∀ data, ∃ e',
            handleWithin units ⟨.load data, env⟩
              (after (turns ++ t :: later) (ofConfig config entropy)) = .ok [] e' ∧
            e'.machine = some s) ∧
          ∀ event : Event, event.isInput = true →
            ∃ e', Refused (units, ⟨event, env⟩)
              (after (turns ++ t :: later) (ofConfig config entropy)) e') ∧
      ∀ (later : List Turn) (units : Config → Nat) (env : Option Patch) (orders : List Order)
        (e' : Engine),
        handleWithin units ⟨.restart, env⟩
          (after (turns ++ t :: later) (ofConfig config entropy)) = .ok orders e' →
        ∃ control, orders = (deliver control (Window.play
          (calls units ⟨.restart, env⟩
            (after (turns ++ t :: later) (ofConfig config entropy))) {})).1 := by
  refine ⟨?_, fun later units env orders e' => restart_batch⟩
  obtain ⟨s, hs, hhalted⟩ := halted_of_stops h
  refine ⟨s, hhalted, fun later hlater => ?_⟩
  have hstays : (after (turns ++ t :: later) (ofConfig config entropy)).machine = some s := by
    rw [after_append]
    exact after_of_halted hlater hhalted hs
  refine ⟨hstays, fun units env => ⟨fun data => ?_, fun event hinput => ?_⟩⟩
  · obtain ⟨e', hload, hmachine, -⟩ := handleWithin_load units data env
      (after (turns ++ t :: later) (ofConfig config entropy))
    exact ⟨e', hload, hmachine.trans hstays⟩
  · exact ⟨_, refused_of_halted hstays hhalted (after_roomy config entropy _)
      (after_fits config entropy _) hinput⟩

/-- A story that prints a letter and quits. -/
def briefStory : List UInt8 :=
  storyOf [0xE5, 0x7F, 0x48, 0xBA]

/-- It is over at once, a line and a load change nothing, and a restart plays it again. -/
theorem stopped_until_restart_brief :
    Stops (fun _ => 1, ⟨.restart, none⟩) (after (oneByOne [.load briefStory]) (ofConfig {} ⟨0⟩)) ∧
      (∃ e', Refused (fun _ => 1, ⟨.read parrotLine, some { undoDepth := some 1 }⟩)
        (after (oneByOne [.load briefStory, .restart, .load loopStory, .resume none])
          (ofConfig {} ⟨0⟩)) e') ∧
      ∃ control, [Order.stream .main "H" 0, .quit] = (deliver control (Window.play
        (calls (fun _ => 1) ⟨.restart, none⟩
          (after (oneByOne [.load briefStory, .restart, .read parrotLine])
            (ofConfig {} ⟨0⟩))) {})).1 := by
  have hquit (events : List Event)
      (hbatch : outcome (handleWithin (fun _ => 1) ⟨.restart, none⟩
        (after (oneByOne events) (ofConfig {} ⟨0⟩))) = .ok [Order.stream .main "H" 0, .quit]) :
      ∃ e', handleWithin (fun _ => 1) ⟨.restart, none⟩
        (after (oneByOne events) (ofConfig {} ⟨0⟩)) = .ok [Order.stream .main "H" 0, .quit] e' :=
    ⟨_, eq_ok_of_outcome hbatch⟩
  obtain ⟨_, hfirst⟩ := hquit [.load briefStory] (by decide +kernel)
  obtain ⟨_, hagain⟩ := hquit [.load briefStory, .restart, .read parrotLine] (by decide +kernel)
  have hstops : Stops (fun _ => 1, ⟨.restart, none⟩)
      (after (oneByOne [.load briefStory]) (ofConfig {} ⟨0⟩)) :=
    .inl ⟨_, _, hfirst, rfl⟩
  obtain ⟨⟨s, -, hlater⟩, hrestart⟩ :=
    stopped_until_restart {} ⟨0⟩ (oneByOne [.load briefStory]) _ hstops
  obtain ⟨-, hrest⟩ := hlater (oneByOne [.load loopStory, .resume none]) (by simp [oneByOne])
  exact ⟨hstops, (hrest (fun _ => 1) (some { undoDepth := some 1 })).2 (.read parrotLine) rfl,
    hrestart (oneByOne [.read parrotLine]) _ _ _ _ hagain⟩

end Engine
end ZMachine
