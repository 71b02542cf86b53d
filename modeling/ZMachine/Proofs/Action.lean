import Mathlib.Logic.Relation
import Mathlib.Order.Defs.Unbundled
import ZMachine.Memory.Update

/-!
# Actions and what they keep

An action runs in a state and ends in one, completed or with a fault.  Where it is known how a part
of a sequence ends, the sequence is that of its rest:

    x s = .ok a s'       →   (x >>= g) s = g a s'
    x s = .error e s'    →   (x >>= g) s = .error e s'

What an action does to the state is told as a relation between the state it starts in and the one it
ends in, however it ends:

    Leads R x      R holds between the two
    Keeps f x      they agree on f
    Makes R x      a chain of steps, each one of R, goes from the one to the other

Each is proved along the structure of an action, so that one lemma for each operation is enough.
What every step of `R` keeps or preserves, an action that makes such steps keeps or preserves.
-/

namespace ZMachine

variable {ε σ τ α β : Type}

/-! ## Sequences -/

theorem bind_ok {x : EStateM ε σ α} {g : α → EStateM ε σ β} {s s' : σ} {a : α}
    (h : x s = .ok a s') : (x >>= g) s = g a s' := by
  show EStateM.bind x g s = _
  unfold EStateM.bind
  rw [h]

theorem bind_error {x : EStateM ε σ α} {g : α → EStateM ε σ β} {s s' : σ} {e : ε}
    (h : x s = .error e s') : (x >>= g) s = .error e s' := by
  show EStateM.bind x g s = _
  unfold EStateM.bind
  rw [h]

/-- Sequences whose first parts end alike end alike. -/
theorem bind_of_eq {x y : EStateM ε σ α} {s s' : σ} (h : x s = y s') (g : α → EStateM ε σ β) :
    (x >>= g) s = (y >>= g) s' := by
  show EStateM.bind x g s = EStateM.bind y g s'
  unfold EStateM.bind
  rw [h]

/-- A sequence that completes has a first part that does. -/
theorem bind_eq_ok {x : EStateM ε σ α} {g : α → EStateM ε σ β} {s s'' : σ} {b : β}
    (h : (x >>= g) s = .ok b s'') : ∃ a s', x s = .ok a s' ∧ g a s' = .ok b s'' := by
  cases hx : x s with
  | ok a s' => exact ⟨a, s', rfl, by rwa [bind_ok hx] at h⟩
  | error e s' =>
    rw [bind_error hx] at h
    cases h

theorem except_bind_eq_ok {x : Except ε α} {f : α → Except ε β} {b : β} (h : (x >>= f) = .ok b) :
    ∃ a, x = .ok a ∧ f a = .ok b := by
  cases x with
  | error e => cases h
  | ok a => exact ⟨a, rfl, h⟩

theorem eq_ok_of_toOption {x : Except ε α} {a : α} (h : x.toOption = some a) : x = .ok a := by
  cases x with
  | error e => cases h
  | ok b =>
    cases h
    rfl

/-- An answer that can be computed. -/
theorem exists_ok {x : Except ε α} {P : α → Prop} (h : ∃ a ∈ x.toOption, P a) :
    ∃ a, x = .ok a ∧ P a := by
  obtain ⟨a, ha, hp⟩ := h
  cases x with
  | error e => cases ha
  | ok b =>
    cases ha
    exact ⟨_, rfl, hp⟩

theorem get_bind (g : σ → EStateM ε σ β) (s : σ) : ((get : EStateM ε σ σ) >>= g) s = g s s :=
  rfl

theorem lift_bind_ok {x : Except Fault α} {a : α} (h : x = .ok a) (g : α → EStateM Fault σ β)
    (s : σ) : ((liftM x : EStateM Fault σ α) >>= g) s = g a s := by
  subst h
  rfl

/-- A sequence that completes after something was read goes on with what was read. -/
theorem lift_bind_eq_ok {x : Except Fault α} {g : α → EStateM Fault σ β} {s s' : σ} {b : β}
    (h : ((liftM x : EStateM Fault σ α) >>= g) s = .ok b s') : ∃ a, x = .ok a ∧ g a s = .ok b s' := by
  cases x with
  | error e => cases h
  | ok a => exact ⟨a, rfl, h⟩

/-- A sequence that completes after a memory was read goes on with what was read. -/
theorem read_bind_eq_ok {x : Except OutOfRange α} {g : α → EStateM Fault σ β} {s s' : σ} {b : β}
    (h : ((liftM x : EStateM Fault σ α) >>= g) s = .ok b s') : ∃ a, x = .ok a ∧ g a s = .ok b s' := by
  cases x with
  | error e => cases h
  | ok a => exact ⟨a, rfl, h⟩

/-! ## From the start to the end -/

/-- The state that an action ended in. -/
def endState : EStateM.Result ε σ α → σ
  | .ok _ s => s
  | .error _ s => s

@[simp] theorem endState_ok (a : α) (s : σ) : endState (.ok a s : EStateM.Result ε σ α) = s := rfl

@[simp] theorem endState_error (e : ε) (s : σ) :
    endState (.error e s : EStateM.Result ε σ α) = s := rfl

/-- The fault that an action ended with. -/
def fault? : EStateM.Result ε σ α → Option ε
  | .ok _ _ => none
  | .error e _ => some e

theorem eq_ok_of_fault? {r : EStateM.Result ε σ Unit} (h : fault? r = none) :
    r = .ok () (endState r) := by
  cases r with
  | ok a s => rfl
  | error e s => cases h

theorem eq_error_of_fault? {r : EStateM.Result ε σ α} {e : ε} (h : fault? r = some e) :
    r = .error e (endState r) := by
  cases r with
  | ok a s => cases h
  | error e' s =>
    cases h
    rfl

/-- Wherever an action starts, `R` holds between that state and the one it ends in. -/
def Leads (R : σ → σ → Prop) (x : EStateM ε σ α) : Prop :=
  ∀ s, R s (endState (x s))

/-- An action leaves `f` of the state as it is. -/
def Keeps (f : σ → τ) (x : EStateM ε σ α) : Prop :=
  ∀ s, f (endState (x s)) = f s

/-- An action changes the state in steps, each of which is one of `R`. -/
abbrev Makes (R : σ → σ → Prop) (x : EStateM ε σ α) : Prop :=
  Leads (Relation.ReflTransGen R) x

theorem Leads.of_ok {R : σ → σ → Prop} {x : EStateM ε σ α} (h : Leads R x) {s s' : σ} {a : α}
    (hx : x s = .ok a s') : R s s' := by
  have := h s
  rwa [hx] at this

theorem Leads.of_error {R : σ → σ → Prop} {x : EStateM ε σ α} (h : Leads R x) {s s' : σ} {e : ε}
    (hx : x s = .error e s') : R s s' := by
  have := h s
  rwa [hx] at this

/-! ## Along the structure of an action -/

section
variable {R : σ → σ → Prop}

theorem leads_modify {h : σ → σ} (hR : ∀ s, R s (h s)) :
    Leads R (modify h : EStateM ε σ Unit) :=
  hR

/-- After `get` it is known which state the rest runs in. -/
theorem leads_get_bind {g : σ → EStateM ε σ β} (hg : ∀ s, R s (endState (g s s))) :
    Leads R (get >>= g) :=
  hg

theorem leads_ite {c : Prop} [Decidable c] {x y : EStateM ε σ α} (hx : c → Leads R x)
    (hy : ¬ c → Leads R y) : Leads R (if c then x else y) := by
  split
  · next h => exact hx h
  · next h => exact hy h

variable [IsPreorder σ R]

theorem leads_pure (a : α) : Leads R (pure a : EStateM ε σ α) :=
  fun s => refl_of R s

theorem leads_throw (e : ε) : Leads R (throw e : EStateM ε σ α) :=
  fun s => refl_of R s

theorem leads_get : Leads R (get : EStateM ε σ σ) :=
  fun s => refl_of R s

/-- It is enough to know where the first part ends. -/
theorem leads_bind_at {x : EStateM ε σ α} {g : α → EStateM ε σ β} {s₀ s : σ}
    (hx : R s₀ (endState (x s))) (hg : ∀ a, Leads R (g a)) : R s₀ (endState ((x >>= g) s)) := by
  cases h : x s with
  | ok a s' =>
    rw [h] at hx
    rw [bind_ok h]
    exact trans_of R hx (hg a s')
  | error e s' =>
    rw [h] at hx
    rwa [bind_error h]

theorem leads_bind {x : EStateM ε σ α} {g : α → EStateM ε σ β} (hx : Leads R x)
    (hg : ∀ a, Leads R (g a)) : Leads R (x >>= g) :=
  fun s => leads_bind_at (hx s) hg

theorem leads_filterMapM {g : α → EStateM ε σ (Option β)} (hg : ∀ a, Leads R (g a))
    (as : List α) : Leads R (as.filterMapM g) := by
  have hloop : ∀ found, Leads R (List.filterMapM.loop g as found) := by
    induction as with
    | nil => exact fun found => leads_pure found.reverse
    | cons a rest ih =>
      intro found
      refine leads_bind (hg a) (fun r => ?_)
      cases r with
      | none => exact ih found
      | some b => exact ih (b :: found)
  exact hloop []

end

section
variable {R : σ → σ → Prop} [IsPreorder σ R]

theorem leads_liftExcept (x : Except Fault α) : Leads R (liftM x : EStateM Fault σ α) := by
  intro s
  cases x <;> exact refl_of R s

theorem leads_liftOutOfRange (x : Except OutOfRange α) :
    Leads R (liftM x : EStateM Fault σ α) := by
  intro s
  cases x <;> exact refl_of R s

end

/-! ## What is kept -/

section
variable {f : σ → τ}

instance isPreorder_keeps : IsPreorder σ (fun s s' => f s' = f s) where
  refl _ := rfl
  trans _ _ _ h h' := h'.trans h

theorem keeps_iff_leads {x : EStateM ε σ α} : Keeps f x ↔ Leads (fun s s' => f s' = f s) x :=
  Iff.rfl

theorem Keeps.of_ok {x : EStateM ε σ α} (h : Keeps f x) {s s' : σ} {a : α}
    (hx : x s = .ok a s') : f s' = f s :=
  (keeps_iff_leads.1 h).of_ok hx

theorem Keeps.of_error {x : EStateM ε σ α} (h : Keeps f x) {s s' : σ} {e : ε}
    (hx : x s = .error e s') : f s' = f s :=
  (keeps_iff_leads.1 h).of_error hx

/-- What is computed from a part that is kept is kept. -/
theorem Keeps.comp {γ : Type} {x : EStateM ε σ α} (h : Keeps f x) (g : τ → γ) :
    Keeps (fun s => g (f s)) x :=
  fun s => congrArg g (h s)

@[simp] theorem keeps_pure (a : α) : Keeps f (pure a : EStateM ε σ α) :=
  keeps_iff_leads.2 (leads_pure a)

@[simp] theorem keeps_throw (e : ε) : Keeps f (throw e : EStateM ε σ α) :=
  keeps_iff_leads.2 (leads_throw e)

@[simp] theorem keeps_get : Keeps f (get : EStateM ε σ σ) :=
  keeps_iff_leads.2 leads_get

theorem keeps_modify {h : σ → σ} (hf : ∀ s, f (h s) = f s) :
    Keeps f (modify h : EStateM ε σ Unit) :=
  keeps_iff_leads.2 (leads_modify hf)

theorem keeps_bind {x : EStateM ε σ α} {g : α → EStateM ε σ β} (hx : Keeps f x)
    (hg : ∀ a, Keeps f (g a)) : Keeps f (x >>= g) :=
  keeps_iff_leads.2 (leads_bind hx hg)

theorem keeps_ite {c : Prop} [Decidable c] {x y : EStateM ε σ α} (hx : c → Keeps f x)
    (hy : ¬ c → Keeps f y) : Keeps f (if c then x else y) :=
  keeps_iff_leads.2 (leads_ite hx hy)

@[simp] theorem keeps_liftExcept (x : Except Fault α) :
    Keeps f (liftM x : EStateM Fault σ α) :=
  keeps_iff_leads.2 (leads_liftExcept x)

@[simp] theorem keeps_liftOutOfRange (x : Except OutOfRange α) :
    Keeps f (liftM x : EStateM Fault σ α) :=
  keeps_iff_leads.2 (leads_liftOutOfRange x)

end

/-! ## What is preserved -/

instance isPreorder_preserves {P : σ → Prop} : IsPreorder σ (fun s s' => P s → P s') where
  refl _ := id
  trans _ _ _ h h' := h' ∘ h

/-! ## What the steps keep -/

section
variable {R : σ → σ → Prop} {x : EStateM ε σ α}

/-- A single step. -/
theorem makes_modify {h : σ → σ} (hR : ∀ s, R s (h s)) :
    Makes R (modify h : EStateM ε σ Unit) :=
  leads_modify (fun s => .single (hR s))

theorem Makes.mono {R' : σ → σ → Prop} (h : Makes R x) (hR : ∀ s s', R s s' → R' s s') :
    Makes R' x :=
  fun s => Relation.ReflTransGen.mono hR _ _ (h s)

/-- Steps of a part are steps of the whole. -/
theorem Makes.lift {R' : τ → τ → Prop} (h : Makes R x) (put : σ → τ)
    (hput : ∀ s s', R s s' → R' (put s) (put s')) (s : σ) :
    Relation.ReflTransGen R' (put s) (put (endState (x s))) :=
  Relation.ReflTransGen.lift put hput _ _ (h s)

/-- A property that every step preserves is preserved. -/
theorem Makes.preserves {P : σ → Prop} (h : Makes R x) (hP : ∀ s s', R s s' → P s → P s') {s : σ}
    (hs : P s) : P (endState (x s)) := by
  have hsteps := h s
  generalize endState (x s) = s' at hsteps
  induction hsteps with
  | refl => exact hs
  | tail _ hstep ih => exact hP _ _ hstep ih

/-- What every step keeps is kept. -/
theorem Makes.keeps {f : σ → τ} (h : Makes R x) (hf : ∀ s s', R s s' → f s' = f s) :
    Keeps f x := by
  intro s
  exact h.preserves (P := fun s' => f s' = f s) (fun _ _ hR hs => (hf _ _ hR).trans hs) rfl

end

end ZMachine
