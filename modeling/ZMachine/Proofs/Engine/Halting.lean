import ZMachine.Proofs.Engine.History

/-!
# Faults that halt the machine

A fault of the story's own run halts the machine, and from then on every input is refused until a
restart.  A fault of the input itself does not: what the input did before it stays done, and the
machine goes on with the next event.

    begin e = .error fault e'                          e' is not halted
    begin e = .ok true e', run e' = .error fault e''   e'' is halted
-/

namespace ZMachine.Engine

/-! ## A machine that is halted -/

section
variable {e : Engine} {s : Machine} (hs : e.machine = some s) (hhalted : s.halted = true)
include hs hhalted

/-- An input is refused, and nothing is done for it. -/
theorem handleWithin_of_halted {envelope : Envelope} (hinput : envelope.event.isInput = true)
    (units : Config → Nat) :
    handleWithin units envelope e = .error .halted (ready envelope e) :=
  handleWithin_of_fault (begin_of_halted hs hhalted hinput) units

/-- Only a restart replaces the machine. -/
theorem handleWithin_keeps_halted {envelope : Envelope} (hevent : envelope.event ≠ .restart)
    (units : Config → Nat) : (endState (handleWithin units envelope e)).machine = some s := by
  obtain ⟨hmachine, -⟩ := ready_kept envelope e
  by_cases hinput : envelope.event.isInput = true
  · rw [handleWithin_of_halted hs hhalted hinput, endState_error, hmachine, hs]
  · obtain ⟨event, env⟩ := envelope
    cases event with
    | load data =>
      rw [handleWithin_eq]
      show (load data (ready ⟨.load data, env⟩ e)).machine = some s
      rw [(load_cases data _).1, hmachine, hs]
    | restart => exact absurd rfl hevent
    | restore | read | char | resume => exact absurd rfl hinput

end

/-- Whatever happens, a halted machine stays as it is until a restart. -/
theorem after_of_halted {later : List Turn} (hlater : ∀ t ∈ later, t.2.event ≠ .restart)
    {s : Machine} (hhalted : s.halted = true) :
    ∀ {e : Engine}, e.machine = some s → (after later e).machine = some s := by
  induction later with
  | nil => exact id
  | cons t rest ih =>
    intro e hs
    refine ih (fun u hu => hlater u (List.mem_cons_of_mem _ hu)) ?_
    exact handleWithin_keeps_halted hs hhalted (hlater t List.mem_cons_self) t.1

/-! ## A fault -/

/-- The run of a story halts the machine if it fails. -/
theorem halted_of_run_error {units : Nat} {e e' : Engine} {s : Machine} {fault : Fault}
    (hs : e.machine = some s) (h : run units e = .error fault e') :
    ∃ s', e'.machine = some s' ∧ s'.halted = true := by
  rw [run_of_toRun? (toRun?_of_machine hs)] at h
  cases hloop : Run.loop e.config units ⟨e.contextOf s, e.cache⟩ with
  | ok control last =>
    rw [hloop] at h
    cases h
  | error cause last =>
    rw [hloop] at h
    cases h
    exact ⟨_, rfl, rfl⟩

/-- Where the fault of an input comes from: the input itself, or the run after it. -/
theorem handleWithin_input_error {units : Config → Nat} {envelope : Envelope} {e e' : Engine}
    {fault : Fault} (hinput : envelope.event.isInput = true)
    (h : handleWithin units envelope e = .error fault e') :
    begin envelope e = .error fault e' ∨
      ∃ e'', begin envelope e = .ok true e'' ∧ run (units e''.config) e'' = .error fault e' := by
  rw [handleWithin_eq] at h
  cases hbegin : begin envelope e with
  | error cause e'' =>
    rw [bind_error hbegin] at h
    cases h
    exact .inl rfl
  | ok answer e'' =>
    obtain ⟨x, hx⟩ := take_input hinput
    have htake := hbegin
    rw [begin_run, hx] at htake
    obtain ⟨_, _, -, htake⟩ := bind_eq_ok htake
    obtain ⟨_, _, -, hanswer⟩ := bind_eq_ok htake
    cases hanswer
    rw [bind_ok hbegin] at h
    exact .inr ⟨e'', rfl, h⟩

/-- What a fault makes of a machine that was running.  It halts the machine just if it came up in the
run of the story and not in the input, and then every input is refused, and the machine stays as it
is, until a restart.  If it came up in the input, the machine goes on as what it was. -/
theorem failed_input {units : Config → Nat} {envelope : Envelope} {e e' : Engine} {s : Machine}
    {fault : Fault} (hinput : envelope.event.isInput = true) (hs : e.machine = some s)
    (hrunning : s.halted = false) (h : handleWithin units envelope e = .error fault e') :
    ∃ s', e'.machine = some s' ∧
      (s'.halted = true ↔ ∃ e'', begin envelope e = .ok true e'') ∧
      (s'.halted = true → ∀ later : List Turn, (∀ t ∈ later, t.2.event ≠ .restart) →
        (after later e').machine = some s' ∧
        ∀ t : Turn, t.2.event.isInput = true →
          handleWithin t.1 t.2 (after later e') = .error .halted (ready t.2 (after later e'))) ∧
      (s'.halted = false → begin envelope e = .error fault e' ∧ s'.identity = s.identity) := by
  rcases handleWithin_input_error hinput h with hbegin | ⟨e'', hbegin, hrun⟩
  · have hcore := (begin_keeps_core hinput).of_error hbegin
    simp only [core, hs, Prod.mk.injEq] at hcore
    obtain ⟨s', hs', hidentity⟩ := Option.map_eq_some_iff.1 hcore.2.2
    have hgoes : s'.halted = false := hrunning ▸ congrArg (·.2.2.1) hidentity
    refine ⟨s', hs', ?_, ?_, fun _ => ⟨hbegin, hidentity⟩⟩
    · rw [hgoes, hbegin]
      simp
    · rw [hgoes]
      intro hhalted
      cases hhalted
  · obtain ⟨started, hstarted, -⟩ := begin_running hbegin
    obtain ⟨s', hs', hhalted⟩ := halted_of_run_error hstarted hrun
    refine ⟨s', hs', ⟨fun _ => ⟨e'', hbegin⟩, fun _ => hhalted⟩, ?_, ?_⟩
    · intro _ later hlater
      have hlast := after_of_halted hlater hhalted hs'
      exact ⟨hlast, fun t ht => handleWithin_of_halted hlast hhalted ht t.1⟩
    · rw [hhalted]
      intro hgoes
      cases hgoes

/-- A story that reads a byte after its end is loaded and started, but does not run yet. -/
def strayTurns : List Turn :=
  [(fun _ => 0, ⟨.load (storyOf [0x10, 0xFF, 0x00, 0x10]), none⟩), (fun _ => 0, ⟨.restart, none⟩)]

theorem failed_input_of_stray_read :
    ∃ fault e' s',
      handleWithin (fun _ => 1) ⟨.resume none, none⟩ (after strayTurns (ofConfig {} ⟨0⟩)) =
        .error fault e' ∧
      fault.kind = .memory ∧ e'.machine = some s' ∧ s'.halted = true ∧
      handleWithin (fun _ => 1) ⟨.resume none, none⟩ (after (oneByOne [.load []]) e') =
        .error .halted (ready ⟨.resume none, none⟩ (after (oneByOne [.load []]) e')) := by
  have hstart : (after strayTurns (ofConfig {} ⟨0⟩)).machine.map (·.halted) = some false := by
    decide +kernel
  have hbegin : fault? (begin ⟨.resume none, none⟩ (after strayTurns (ofConfig {} ⟨0⟩))) = none := by
    decide +kernel
  have hkind : (fault? (handleWithin (fun _ => 1) ⟨.resume none, none⟩
      (after strayTurns (ofConfig {} ⟨0⟩)))).map Fault.kind = some .memory := by
    decide +kernel
  obtain ⟨s, hs, hrunning⟩ := Option.map_eq_some_iff.1 hstart
  obtain ⟨fault, hfault, hkind⟩ := Option.map_eq_some_iff.1 hkind
  have h := eq_error_of_fault? hfault
  obtain ⟨s', hs', -, hhalted, hgoes⟩ := failed_input rfl hs hrunning h
  cases hstate : s'.halted with
  | false =>
    rw [(hgoes hstate).1] at hbegin
    cases hbegin
  | true =>
    obtain ⟨-, hrefused⟩ := hhalted hstate (oneByOne [.load []]) (by simp [oneByOne])
    exact ⟨fault, _, s', h, hkind, hs', hstate, hrefused (fun _ => 1, ⟨.resume none, none⟩) rfl⟩

/-- A line for a buffer after the end of the story, which the loop has not asked for. -/
def strayLine : LineInput :=
  { response := "go", terminator := 13, buffer := 0x10000, parse := 0, length := 10, storer := .stack }

/-- Its terminator is stored, then the buffer is out of range, and the loop goes on. -/
theorem failed_input_not_always_halting :
    ¬ ∀ (config : Config) (entropy : Entropy) (turns : List Turn) (t : Turn) (s : Machine)
      (fault : Fault) (e' : Engine), t.2.event.isInput = true →
        (after turns (ofConfig config entropy)).machine = some s → s.halted = false →
        handleWithin t.1 t.2 (after turns (ofConfig config entropy)) = .error fault e' →
        fault.kind = .memory → ∃ s', e'.machine = some s' ∧ s'.halted = true := by
  intro h
  let turns := oneByOne [.load loopStory, .restart]
  have hstart : (after turns (ofConfig {} ⟨0⟩)).machine.map (·.halted) = some false := by
    decide +kernel
  have hfault : fault? (handleWithin (fun _ => 1) ⟨.read strayLine, none⟩
      (after turns (ofConfig {} ⟨0⟩))) = some (.outOfRange ⟨0x10001, 1, 0x43⟩) := by
    decide +kernel
  have hgoes : (endState (handleWithin (fun _ => 1) ⟨.read strayLine, none⟩
      (after turns (ofConfig {} ⟨0⟩)))).machine.map (·.halted) = some false := by
    decide +kernel
  obtain ⟨s, hs, hrunning⟩ := Option.map_eq_some_iff.1 hstart
  obtain ⟨s', hs', hhalted⟩ := h {} ⟨0⟩ turns (fun _ => 1, ⟨.read strayLine, none⟩) s _ _ rfl hs
    hrunning (eq_error_of_fault? hfault) rfl
  rw [hs', Option.map_some, hhalted] at hgoes
  cases hgoes

end ZMachine.Engine
