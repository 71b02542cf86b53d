import ZMachine.Proofs.Engine.Batch

/-!
# Time slices

When its slice is over a run stops between two blocks, hands over the output with a tick, and goes on
when the host resumes it.  Where the slices end makes no difference to the story:

    play slices envelope e = some (batches, e')

All slices that bring an event to its end bring it to the same one, with the same text over all
batches.  For a run that is not cut at all ends there, too: what a tick changes is the pending output
and the journal, which no block reads.
-/

namespace ZMachine

namespace Run

/-! ## A run that is not cut -/

/-- A run asks for something in the end and has sent some text to the main window on the way. -/
inductive Finishes (config : Config) : Run → List Glyph → Order → Run → Prop
  | last {run next : Run} {control : Order} (h : turn config run = .ok (some control) next) :
      Finishes config run (Window.sent (turnCalls config run) run.window) control next
  | next {run mid final : Run} {text : List Glyph} {control : Order}
      (h : turn config run = .ok none mid) (hrest : Finishes config mid text control final) :
      Finishes config run (Window.sent (turnCalls config run) run.window ++ text) control final

variable {config : Config}

/-- There is one way to go on. -/
theorem Finishes.unique {run final final' : Run} {text text' : List Glyph} {control control' : Order}
    (h : Finishes config run text control final) (h' : Finishes config run text' control' final') :
    text = text' ∧ control = control' ∧ final = final' := by
  induction h generalizing text' with
  | last hturn =>
    cases h' with
    | last hturn' =>
      cases hturn.symm.trans hturn'
      exact ⟨rfl, rfl, rfl⟩
    | next hturn' => cases hturn.symm.trans hturn'
  | next hturn _ ih =>
    cases h' with
    | last hturn' => cases hturn.symm.trans hturn'
    | next hturn' hrest' =>
      cases hturn.symm.trans hturn'
      obtain ⟨rfl, hcontrol, hfinal⟩ := ih hrest'
      exact ⟨rfl, hcontrol, hfinal⟩

theorem settings_of_core {run other : Run} (h : other.core = run.core) :
    other.window.settings = run.window.settings :=
  congrArg (·.1.2.2.2.2) h

/-- The pending text and the journal make no difference. -/
theorem Finishes.of_core {run final : Run} {text : List Glyph} {control : Order}
    (h : Finishes config run text control final) :
    ∀ {other : Run}, other.core = run.core →
      ∃ final', Finishes config other text control final' ∧ final'.core = final.core := by
  have hsent {run other : Run} (hcore : other.core = run.core) :
      Window.sent (turnCalls config other) other.window =
        Window.sent (turnCalls config run) run.window := by
    rw [(turn_tells config).sent_eq hcore]
    exact Window.sent_of_settings _ (settings_of_core hcore)
  induction h with
  | last hturn =>
    intro other hcore
    obtain ⟨next', hturn', hnext, -⟩ := (turn_tells config).of_ok hcore hturn
    exact ⟨next', hsent hcore ▸ .last hturn', hnext⟩
  | next hturn _ ih =>
    intro other hcore
    obtain ⟨mid', hturn', hmid, -⟩ := (turn_tells config).of_ok hcore hturn
    obtain ⟨final', hfinishes, hfinal⟩ := ih hmid
    exact ⟨final', hsent hcore ▸ .next hturn' hfinishes, hfinal⟩

/-- A loop comes to the end of the run, or its slice is over and the rest is still to come. -/
theorem loop_cases {units : Nat} {run last : Run} {control : Order}
    (hrun : run.context.control = none) (h : loop config units run = .ok control last) :
    (control ≠ .tick ∧
        Finishes config run (Window.sent (calls config units run) run.window) control last) ∨
      (control = .tick ∧ last.context.control = none ∧
        ∀ {text : List Glyph} {order : Order} {final : Run},
          Finishes config last text order final →
            Finishes config run (Window.sent (calls config units run) run.window ++ text) order
              final) := by
  induction units generalizing run with
  | zero =>
    cases h
    exact .inr ⟨rfl, hrun, id⟩
  | succ units ih =>
    have hnone : Asks run.context := by
      intro order horder
      rw [hrun] at horder
      cases horder
    unfold loop at h
    obtain ⟨asked, mid, hturn, hrest⟩ := bind_eq_ok h
    obtain ⟨hrequest, hmid⟩ := turn_asks hnone hturn
    have hwindow : mid.window = run.window.play (turnCalls config run) := by
      have hplay := (turn_tells config).window_eq run
      rwa [hturn] at hplay
    unfold calls
    rw [Window.sent_append, ← hwindow, hturn]
    cases asked with
    | some order =>
      cases hrest
      left
      refine ⟨?_, ?_⟩
      · rintro rfl
        cases hrequest _ rfl
      · have hlast := Finishes.last hturn
        rwa [← List.append_nil (Window.sent _ _)] at hlast
    | none =>
      rcases ih hmid hrest with ⟨hcontrol, hfinishes⟩ | ⟨hcontrol, hlast, hfinishes⟩
      · exact .inl ⟨hcontrol, .next hturn hfinishes⟩
      · refine .inr ⟨hcontrol, hlast, fun hrest => ?_⟩
        rw [List.append_assoc]
        exact .next hturn (hfinishes hrest)

end Run

/-! ## A run in slices -/

namespace Engine

/-- Handles an event in slices, each of them for as many blocks as `slices` has next: whenever a slice
is over the host resumes.  Answers the batches and the engine at the end, when the story asks for
something; there is none if a fault comes up or the slices do not last. -/
def play : (slices : List (Config → Nat)) → Envelope → Engine → Option (List (List Order) × Engine)
  | [], _, _ => none
  | units :: rest, envelope, e =>
    match handleWithin units envelope e with
    | .error _ _ => none
    | .ok orders e' =>
      if orders.getLast? = some .tick then
        (play rest ⟨.resume none, none⟩ e').map fun (batches, last) => (orders :: batches, last)
      else some ([orders], e')

/-- The control order that a sequence of batches ends with. -/
def lastControl (batches : List (List Order)) : Option Order :=
  batches.getLast?.bind List.getLast?

/-- An engine without its journal. -/
def forget (e : Engine) : Engine :=
  { e with journal := [] }

/-- What an engine is when a run in it was finished. -/
def finish (e : Engine) (final : Run) : Engine :=
  { e with
    machine := some final.context.machine
    cache := final.cache
    undo := final.context.undo
    window := settled final.context.window
    entropy := final.context.entropy
    journal := [] }

theorem deliver_getLast? (control : Order) (w : Window) :
    (deliver control w).1.getLast? = some control := by
  rw [deliver_eq]
  exact List.getLast?_concat

/-- Screens with the same settings are the same when all was handed over. -/
theorem settled_of_settings {v w : Window} (h : v.settings = w.settings) : settled v = settled w := by
  obtain ⟨hvorders, hvrun, hvstatus⟩ := settled_idle v
  obtain ⟨hworders, hwrun, hwstatus⟩ := settled_idle w
  rw [← settled_settings v, ← settled_settings w] at h
  unfold Window.settings at h
  injection h with hrunStyle hstyle hwindow hcursor
  generalize settled v = v' at *
  generalize settled w = w' at *
  cases v'
  cases w'
  simp_all

theorem finish_of_core {e e' : Engine} {final final' : Run} (hconfig : e'.config = e.config)
    (hstory : e'.story = e.story) (hcore : final'.core = final.core) :
    e'.finish final' = e.finish final := by
  have hcache : final'.cache = final.cache := congrArg Prod.snd hcore
  have hundo : final'.context.undo = final.context.undo := congrArg (·.1.2.1) hcore
  have hentropy : final'.context.entropy = final.context.entropy := congrArg (·.1.2.2.2.1) hcore
  have hwindow := settled_of_settings (Run.settings_of_core hcore)
  unfold Run.window at hwindow
  unfold finish
  rw [hconfig, hstory, Run.machine_of_core hcore, hcache, hundo, hentropy, hwindow]

theorem play_eq_some {slices : List (Config → Nat)} {envelope : Envelope} {e : Engine}
    {played : List (List Order) × Engine} (h : play slices envelope e = some played) :
    ∃ units rest orders e', slices = units :: rest ∧
      handleWithin units envelope e = .ok orders e' := by
  cases slices with
  | nil => cases h
  | cons units rest =>
    unfold play at h
    cases hhandle : handleWithin units envelope e with
    | error fault e' =>
      rw [hhandle] at h
      cases h
    | ok orders e' => exact ⟨units, rest, orders, e', rfl, hhandle⟩

/-- To resume without a result is only to make ready. -/
theorem begin_resume {e e' : Engine} {goes : Bool}
    (h : begin ⟨.resume none, none⟩ e = .ok goes e') :
    goes = true ∧ e' = ready ⟨.resume none, none⟩ e := by
  rw [begin_run] at h
  obtain ⟨u, e₁, hresume, hlast⟩ := bind_eq_ok h
  obtain ⟨v, e₂, hcheck, hpure⟩ := bind_eq_ok hresume
  obtain ⟨s, hs, hrunning⟩ := checkRunning_eq_ok hcheck
  rw [checkRunning_of_running hs hrunning] at hcheck
  cases hcheck
  cases hpure
  cases hlast
  exact ⟨rfl, rfl⟩

/-- After a slice a resumed engine goes on where the slice stopped: only pending text and the journal
are not what they were. -/
theorem resume_core {e e₁ : Engine} {mid : Run} {j : Journal} (hnone : mid.context.control = none)
    (h : e₁ = ready ⟨.resume none, none⟩ { e.finish mid with journal := j }) :
    ∃ r₁, e₁.toRun? = some r₁ ∧ r₁.core = mid.core ∧ r₁.window.pending = [] ∧
      e₁.config = e.config ∧ e₁.story = e.story := by
  have hmachine : e₁.machine = some mid.context.machine := by
    rw [h, (ready_kept _ _).1]
    rfl
  have hundo : e₁.undo = mid.context.undo := by rw [h]; rfl
  have hentropy : e₁.entropy = mid.context.entropy := by rw [h]; rfl
  have hcache : e₁.cache = mid.cache := by rw [h]; rfl
  have hwindow : e₁.window = settled (settled mid.context.window) := by
    rw [h, ready_window]
    rfl
  have hsettings : e₁.window.settings = mid.context.window.settings := by
    rw [hwindow, settled_settings, settled_settings]
  obtain ⟨horders, hrun, -⟩ := settled_idle (settled mid.context.window)
  rw [← hwindow] at horders hrun
  refine ⟨⟨e₁.contextOf mid.context.machine, e₁.cache⟩, toRun?_of_machine hmachine, ?_, ?_, ?_, ?_⟩
  · have hcore : Run.core ⟨e₁.contextOf mid.context.machine, e₁.cache⟩ =
        ((mid.context.machine, e₁.undo, none, e₁.entropy, e₁.window.settings), e₁.cache) := rfl
    rw [hcore, hundo, hentropy, hsettings, hcache, ← hnone]
    rfl
  · show mainText e₁.window.orders.toList ++ glyphsOf e₁.window.run e₁.window.runStyle = []
    rw [horders, hrun]
    rfl
  · rw [h]
    rfl
  · rw [h]
    rfl

/-- Slices that bring an event to its end end as the run that is not cut does. -/
theorem play_finishes {slices : List (Config → Nat)} :
    ∀ {envelope : Envelope} {e e₀ last : Engine} {r : Run} {batches : List (List Order)},
      begin envelope e = .ok true e₀ → e₀.toRun? = some r →
      play slices envelope e = some (batches, last) →
      ∃ text control final, Run.Finishes e₀.config r text control final ∧
        lastControl batches = some control ∧
        mainText batches.flatten = r.window.pending ++ text ∧ last.forget = e₀.finish final := by
  induction slices with
  | nil =>
    intro envelope e e₀ last r batches _ _ hplay
    cases hplay
  | cons units rest ih =>
    intro envelope e e₀ last r batches hbegin hr hplay
    obtain ⟨_, _, orders, e', hslices, hhandle⟩ := play_eq_some hplay
    cases hslices
    have hrun : run (units e₀.config) e₀ = .ok orders e' := by
      rw [handleWithin_eq, bind_ok hbegin] at hhandle
      exact hhandle
    obtain ⟨r', control, mid, hr', hloop, rfl, he'⟩ := run_eq_ok hrun
    cases hr.symm.trans hr'
    have hstart : r.context.control = none := by
      obtain ⟨s, -, rfl⟩ := toRun?_eq_some hr
      rfl
    have hcontrol : control.isControl = true := by
      refine Run.loop_isControl (fun order horder => ?_) hloop
      rw [hstart] at horder
      cases horder
    have hwindow : mid.context.window =
        r.window.play (r.calls e₀.config (units e₀.config)) := by
      have hplay := (Run.loop_tells e₀.config (units e₀.config)).window_eq r
      rwa [hloop] at hplay
    have htext : mainText (deliver control mid.context.window).1 =
        r.window.pending ++ Window.sent (r.calls e₀.config (units e₀.config)) r.window := by
      rw [deliver_mainText hcontrol, hwindow, Window.play_pending]
    unfold play at hplay
    rw [hhandle] at hplay
    dsimp only at hplay
    rw [deliver_getLast?] at hplay
    rcases Run.loop_cases hstart hloop with ⟨hne, hfinishes⟩ | ⟨rfl, hnone, hfinishes⟩
    · rw [if_neg (fun h => hne (Option.some.inj h))] at hplay
      cases hplay
      refine ⟨_, control, mid, hfinishes, deliver_getLast? control _, ?_, ?_⟩
      · rw [List.flatten_singleton, htext]
      · rw [he']
        rfl
    · rw [if_pos rfl] at hplay
      obtain ⟨⟨later, final⟩, hrest, hsplit⟩ := Option.map_eq_some_iff.1 hplay
      cases hsplit
      obtain ⟨units', rest', orders', e'', -, hhandle'⟩ := play_eq_some hrest
      obtain ⟨e₁, hbegin'⟩ : ∃ e₁, begin ⟨.resume none, none⟩ e' = .ok true e₁ := by
        rcases handleWithin_eq_ok hhandle' with ⟨-, -, data, hload⟩ | ⟨e₁, hbegin', -⟩
        · cases hload
        · exact ⟨e₁, hbegin'⟩
      have hready := (begin_resume hbegin').2
      rw [he'] at hready
      obtain ⟨r₁, hr₁, hcore, hpending, hconfig, hstory⟩ := resume_core (e := e₀) hnone hready
      obtain ⟨text, order, last₁, hfinishes₁, hlast, htext₁, hforget⟩ := ih hbegin' hr₁ hrest
      obtain ⟨last, hfinishes₂, hsame⟩ := hfinishes₁.of_core hcore.symm
      rw [hconfig] at hfinishes₂
      refine ⟨_, order, last, hfinishes hfinishes₂, ?_, ?_, ?_⟩
      · obtain ⟨batch, hbatch, horder⟩ := Option.bind_eq_some_iff.1 hlast
        unfold lastControl
        rw [List.getLast?_cons, hbatch]
        exact horder
      · rw [List.flatten_cons, mainText_append, htext, htext₁, hpending, List.append_assoc,
          List.nil_append]
      · rw [hforget]
        exact finish_of_core hconfig hstory hsame.symm

/-- Time slicing makes no difference.  However an event is cut into slices, if the story gets to ask for
something then it asks for the same, the engine is the same but for its journal, and the batches
together hold the same text for the main window, each character in its style. -/
theorem play_agree {slices slices' : List (Config → Nat)} {envelope : Envelope} {e last last' : Engine}
    {batches batches' : List (List Order)} (h : play slices envelope e = some (batches, last))
    (h' : play slices' envelope e = some (batches', last')) :
    lastControl batches = lastControl batches' ∧ last.forget = last'.forget ∧
      mainText batches.flatten = mainText batches'.flatten := by
  obtain ⟨units, rest, orders, e', rfl, hhandle⟩ := play_eq_some h
  obtain ⟨units', rest', orders', e'', rfl, hhandle'⟩ := play_eq_some h'
  rcases handleWithin_eq_ok hhandle with ⟨rfl, hbegin, hload⟩ | ⟨e₀, hbegin, hrun⟩
  · have hsame : handleWithin units' envelope e = handleWithin units envelope e := by
      rw [handleWithin_eq, handleWithin_eq, bind_ok hbegin, bind_ok hbegin]
      rfl
    rw [hsame, hhandle] at hhandle'
    cases hhandle'
    unfold play at h h'
    rw [hhandle] at h
    rw [hsame, hhandle] at h'
    cases h
    cases h'
    exact ⟨rfl, rfl, rfl⟩
  · obtain ⟨r, -, -, hr, -⟩ := run_eq_ok hrun
    obtain ⟨text, control, final, hfinishes, hcontrol, htext, hlast⟩ := play_finishes hbegin hr h
    obtain ⟨text', control', final', hfinishes', hcontrol', htext', hlast'⟩ :=
      play_finishes hbegin hr h'
    obtain ⟨rfl, rfl, rfl⟩ := hfinishes.unique hfinishes'
    exact ⟨hcontrol.trans hcontrol'.symm, hlast.trans hlast'.symm, htext.trans htext'.symm⟩

/-- A story that prints a letter, sets a style, jumps, prints another letter and quits: two blocks. -/
def twoBlockStory : List UInt8 :=
  storyOf [0xE5, 0x7F, 0x48, 0xF1, 0x7F, 2, 0x8C, 0, 2, 0xE5, 0x7F, 0x69, 0xBA]

/-- The story is loaded and started, but does not run yet. -/
def twoBlockTurns : List Turn :=
  [(fun _ => 0, ⟨.load twoBlockStory, none⟩), (fun _ => 0, ⟨.restart, none⟩)]

/-- In one slice, and in three with a stop after the first block and none run in the second slice. -/
theorem play_agree_twoBlocks :
    ∃ batches last batches' last',
      play [fun _ => 2] ⟨.resume (some ⟨.stack, 7⟩), none⟩
        (after twoBlockTurns (ofConfig {} ⟨0⟩)) = some (batches, last) ∧
      play [fun _ => 1, fun _ => 0, fun _ => 1] ⟨.resume (some ⟨.stack, 7⟩), none⟩
        (after twoBlockTurns (ofConfig {} ⟨0⟩)) = some (batches', last') ∧
      batches.length = 1 ∧ batches'.length = 3 ∧ lastControl batches' = some .quit ∧
      last.forget = last'.forget ∧ mainText batches'.flatten = [('H', 0), ('i', 2)] := by
  have hone : (play [fun _ => 2] ⟨.resume (some ⟨.stack, 7⟩), none⟩
      (after twoBlockTurns (ofConfig {} ⟨0⟩))).map
        (fun p => (p.1.length, lastControl p.1, mainText p.1.flatten)) =
      some (1, some .quit, [('H', 0), ('i', 2)]) := by
    decide +kernel
  have hthree : (play [fun _ => 1, fun _ => 0, fun _ => 1] ⟨.resume (some ⟨.stack, 7⟩), none⟩
      (after twoBlockTurns (ofConfig {} ⟨0⟩))).map (·.1.length) = some 3 := by
    decide +kernel
  obtain ⟨⟨batches, last⟩, h, hfacts⟩ := Option.map_eq_some_iff.1 hone
  obtain ⟨⟨batches', last'⟩, h', hlength'⟩ := Option.map_eq_some_iff.1 hthree
  obtain ⟨hcontrol, hengine, htext⟩ := play_agree h h'
  simp only [Prod.mk.injEq] at hfacts
  obtain ⟨hlength, hquit, hletters⟩ := hfacts
  exact ⟨batches, last, batches', last', h, h', hlength, hlength', hcontrol ▸ hquit, hengine,
    htext ▸ hletters⟩

end Engine
end ZMachine
