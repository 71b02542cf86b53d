import ZMachine.Proofs.Action
import ZMachine.Proofs.Window

/-!
# Actions that tell the screen something

An action tells the screen some calls, computed from the state it starts in, and they are all that
becomes of the screen:

    window (end) = play (calls s) (window s)

The pending text has no part in this: `core` is the rest of the state, with the settings of the
screen in it, and from states that agree on `core` an action ends alike and tells the same.  In a
sequence the second part tells its calls after those of the first:

    calls of (x >>= g) in s = calls of x in s ++ calls of (g a) in s'      where x s = .ok a s'

Facts about fixed parts of the state that an action does not read, as the journal, need no care: they
are left out of `core`.  Where nothing is said about the screen, two ends are `Alike` if they answer
the same and agree on a view of the state.
-/

namespace ZMachine

variable {ε σ α β κ : Type}

/-- How an action ended: with a value or with a fault. -/
def outcome : EStateM.Result ε σ α → Except ε α
  | .ok a _ => .ok a
  | .error e _ => .error e

theorem eq_ok_of_outcome {r : EStateM.Result ε σ α} {a : α} (h : outcome r = .ok a) :
    r = .ok a (endState r) := by
  cases r with
  | ok b s =>
    cases h
    rfl
  | error e s => cases h

theorem eq_error_of_outcome {r : EStateM.Result ε σ α} {e : ε} (h : outcome r = .error e) :
    r = .error e (endState r) := by
  cases r with
  | ok a s => cases h
  | error e' s =>
    cases h
    rfl

/-! ## Actions that end alike -/

/-- Two ends with the same answer or fault, in states with the same view. -/
def Alike (view : σ → κ) (r r' : EStateM.Result ε σ α) : Prop :=
  outcome r' = outcome r ∧ view (endState r') = view (endState r)

section
variable {view : σ → κ} {r r' : EStateM.Result ε σ α}

theorem Alike.of_ok (h : Alike view r r') {a : α} {s : σ} (hr : r = .ok a s) :
    ∃ s', r' = .ok a s' ∧ view s' = view s := by
  subst hr
  exact ⟨_, eq_ok_of_outcome h.1, h.2⟩

theorem Alike.of_error (h : Alike view r r') {e : ε} {s : σ} (hr : r = .error e s) :
    ∃ s', r' = .error e s' ∧ view s' = view s := by
  subst hr
  exact ⟨_, eq_error_of_outcome h.1, h.2⟩

/-- What comes next ends alike if it does so wherever the first action can lead to. -/
theorem Alike.bind {x y : EStateM ε σ α} {g : α → EStateM ε σ β} {s t : σ}
    (hx : Alike view (x s) (y t))
    (hg : ∀ a s' t', x s = .ok a s' → view t' = view s' → Alike view (g a s') (g a t')) :
    Alike view ((x >>= g) s) ((y >>= g) t) := by
  cases hs : x s with
  | ok a s' =>
    obtain ⟨t', ht, hview⟩ := hx.of_ok hs
    rw [bind_ok hs, bind_ok ht]
    exact hg a s' t' hs hview
  | error e s' =>
    obtain ⟨t', ht, hview⟩ := hx.of_error hs
    rw [bind_error hs, bind_error ht]
    exact ⟨rfl, hview⟩

end

/-! ## Actions that only answer -/

/-- A result that leaves the state as it is. -/
def answer (r : Except ε α) (s : σ) : EStateM.Result ε σ α :=
  match r with
  | .ok a => .ok a s
  | .error e => .error e s

theorem bind_answer {x : EStateM ε σ α} {r : Except ε α} {s : σ} (g : α → EStateM ε σ β) :
    x s = answer r s → (x >>= g) s = match r with
      | .ok a => g a s
      | .error e => .error e s := by
  intro h
  cases r with
  | ok a => exact bind_ok h
  | error e => exact bind_error h

/-- Where each item only gets an answer, the list of them does. -/
theorem filterMapM_answer {g : α → EStateM ε σ (Option β)} {q : α → Except ε (Option β)} {s : σ}
    (h : ∀ a, g a s = answer (q a) s) (as : List α) :
    as.filterMapM g s = answer (as.filterMapM q) s := by
  have hloop : ∀ found, List.filterMapM.loop g as found s =
      answer (List.filterMapM.loop q as found) s := by
    induction as with
    | nil => exact fun found => rfl
    | cons a rest ih =>
      intro found
      unfold List.filterMapM.loop
      rw [bind_answer _ (h a)]
      cases hq : q a with
      | error e => rfl
      | ok b =>
        cases b with
        | none => exact ih found
        | some b => exact ih (b :: found)
  exact hloop []

/-! ## Actions that tell the screen something -/

/-- From states that agree on `core` an action ends alike, again in such states, and each screen has
then been told the calls. -/
def TellsOn (core : σ → κ) (window : σ → Window) (x : EStateM ε σ α)
    (calls : σ → List Window.Call) : Prop :=
  ∀ s t, core t = core s →
    outcome (x t) = outcome (x s) ∧ core (endState (x t)) = core (endState (x s)) ∧
      window (endState (x t)) = (window t).play (calls s)

/-- An action that tells the screen nothing. -/
abbrev QuietOn (core : σ → κ) (window : σ → Window) (x : EStateM ε σ α) : Prop :=
  TellsOn core window x (fun _ => [])

section
variable {core : σ → κ} {window : σ → Window} {x : EStateM ε σ α} {calls : σ → List Window.Call}

theorem TellsOn.of_eq {calls' : σ → List Window.Call} (h : TellsOn core window x calls)
    (heq : ∀ s, calls s = calls' s) : TellsOn core window x calls' :=
  funext heq ▸ h

theorem TellsOn.window_eq (h : TellsOn core window x calls) (s : σ) :
    window (endState (x s)) = (window s).play (calls s) :=
  (h s s rfl).2.2

/-- From states that agree the same text is sent to the main window. -/
theorem TellsOn.sent_eq (h : TellsOn core window x calls) {s t : σ} (hst : core t = core s) :
    Window.sent (calls t) (window t) = Window.sent (calls s) (window t) := by
  have hown := congrArg Window.pending (h.window_eq t)
  rw [(h s t hst).2.2, Window.play_pending, Window.play_pending] at hown
  exact (List.append_cancel_left hown).symm

/-- Two runs of an action that complete answer the same. -/
theorem TellsOn.of_ok (h : TellsOn core window x calls) {s t s' : σ} {a : α} (hst : core t = core s)
    (hs : x s = .ok a s') :
    ∃ t', x t = .ok a t' ∧ core t' = core s' ∧ window t' = (window t).play (calls s) := by
  obtain ⟨hanswer, hcore, hwindow⟩ := h s t hst
  rw [hs] at hanswer hcore
  exact ⟨_, eq_ok_of_outcome hanswer, hcore, hwindow⟩

theorem TellsOn.of_error (h : TellsOn core window x calls) {s t s' : σ} {e : ε} (hst : core t = core s)
    (hs : x s = .error e s') :
    ∃ t', x t = .error e t' ∧ core t' = core s' ∧ window t' = (window t).play (calls s) := by
  obtain ⟨hanswer, hcore, hwindow⟩ := h s t hst
  rw [hs] at hanswer hcore
  exact ⟨_, eq_error_of_outcome hanswer, hcore, hwindow⟩

/-- The calls of what follows an action. -/
def callsAfter (r : EStateM.Result ε σ α) (calls : α → σ → List Window.Call) : List Window.Call :=
  match r with
  | .ok a s => calls a s
  | .error _ _ => []

theorem tells_bind {g : α → EStateM ε σ β} {rest : α → σ → List Window.Call}
    (hx : TellsOn core window x calls) (hg : ∀ a, TellsOn core window (g a) (rest a)) :
    TellsOn core window (x >>= g) (fun s => calls s ++ callsAfter (x s) rest) := by
  intro s t hst
  cases hs : x s with
  | ok a s' =>
    obtain ⟨t', ht, hcore, hwindow⟩ := hx.of_ok hst hs
    obtain ⟨hanswer, hend, hplay⟩ := hg a s' t' hcore
    rw [bind_ok hs, bind_ok ht]
    refine ⟨hanswer, hend, ?_⟩
    rw [hplay, hwindow, ← Window.play_append]
    dsimp only
    rw [hs]
    rfl
  | error e s' =>
    obtain ⟨t', ht, hcore, hwindow⟩ := hx.of_error hst hs
    rw [bind_error hs, bind_error ht]
    refine ⟨rfl, hcore, ?_⟩
    dsimp only
    rw [endState_error, hwindow, hs]
    exact congrArg (Window.play · (window t)) (List.append_nil (calls s)).symm

/-- Behind a quiet action only what follows is told. -/
theorem quiet_then {g : α → EStateM ε σ β} {rest : α → σ → List Window.Call}
    (hx : QuietOn core window x) (hg : ∀ a, TellsOn core window (g a) (rest a)) :
    TellsOn core window (x >>= g) (fun s => callsAfter (x s) rest) :=
  tells_bind hx hg

theorem quiet_bind {g : α → EStateM ε σ β} (hx : QuietOn core window x)
    (hg : ∀ a, QuietOn core window (g a)) : QuietOn core window (x >>= g) := by
  refine (quiet_then hx hg).of_eq (fun s => ?_)
  cases x s <;> rfl

theorem tells_ite {c : Prop} [Decidable c] {x y : EStateM ε σ α} {calls : σ → List Window.Call}
    (hx : c → TellsOn core window x calls) (hy : ¬ c → TellsOn core window y calls) :
    TellsOn core window (if c then x else y) calls := by
  split
  · next h => exact hx h
  · next h => exact hy h

theorem quiet_pure (a : α) : QuietOn core window (pure a : EStateM ε σ α) :=
  fun _ _ hst => ⟨rfl, hst, rfl⟩

theorem quiet_throw (e : ε) : QuietOn core window (throw e : EStateM ε σ α) :=
  fun _ _ hst => ⟨rfl, hst, rfl⟩

/-- What is got from the state is the same in states that agree, if it is computed from `core`. -/
theorem tells_get_bind {g : σ → EStateM ε σ β} {rest : σ → σ → List Window.Call}
    (hsame : ∀ s t, core t = core s → g t = g s) (hg : ∀ s, TellsOn core window (g s) (rest s)) :
    TellsOn core window (get >>= g) (fun s => rest s s) := by
  intro s t hst
  rw [get_bind, get_bind, hsame s t hst]
  exact hg s s t hst

theorem quiet_get_bind {g : σ → EStateM ε σ β} (hsame : ∀ s t, core t = core s → g t = g s)
    (hg : ∀ s, QuietOn core window (g s)) : QuietOn core window (get >>= g) :=
  tells_get_bind hsame hg

/-- A step that leaves the screen alone. -/
theorem quiet_modify {h : σ → σ} (hcore : ∀ s t, core t = core s → core (h t) = core (h s))
    (hwindow : ∀ s, window (h s) = window s) : QuietOn core window (modify h : EStateM ε σ Unit) :=
  fun s t hst => ⟨rfl, hcore s t hst, hwindow t⟩

theorem quiet_liftExcept (r : Except Fault α) :
    QuietOn core window (liftM r : EStateM Fault σ α) := by
  intro s t hst
  cases r <;> exact ⟨rfl, hst, rfl⟩

theorem quiet_liftOutOfRange (r : Except OutOfRange α) :
    QuietOn core window (liftM r : EStateM Fault σ α) := by
  intro s t hst
  cases r <;> exact ⟨rfl, hst, rfl⟩

end

end ZMachine
