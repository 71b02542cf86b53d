import Mathlib.Tactic.Choose
import ZMachine.Loop

/-!
# Loops that end and loops that do not

    Ends round n s a        from s the loop ends after at most n rounds, and leaves a
    Forever round s         there is a round after each round

Every loop does one of the two, from every state, and `loop` tells which.  Where something grows less
with each round, the loop ends.
-/

namespace ZMachine

variable {σ α : Type} {round : σ → Round σ α}

/-- Whether a loop ends after at most `n` rounds and leaves `a`. -/
inductive Ends (round : σ → Round σ α) : (n : Nat) → σ → α → Prop
  | done {n : Nat} {s : σ} {a : α} (h : round s = .done a) : Ends round (n + 1) s a
  | again {n : Nat} {s s' : σ} {a : α} (h : round s = .again s') (hrest : Ends round n s' a) :
      Ends round (n + 1) s a

/-- Whether a loop goes on for ever: its states follow each other without an end. -/
def Forever (round : σ → Round σ α) (s : σ) : Prop :=
  ∃ states : Nat → σ, states 0 = s ∧ ∀ n, round (states n) = .again (states (n + 1))

theorem Forever.tail {s : σ} (h : Forever round s) : ∃ s', round s = .again s' ∧ Forever round s' := by
  obtain ⟨states, rfl, hnext⟩ := h
  exact ⟨states 1, hnext 0, fun n => states (n + 1), rfl, fun n => hnext (n + 1)⟩

theorem Ends.mono {n k : Nat} {s : σ} {a : α} (h : Ends round n s a) (hk : n ≤ k) :
    Ends round k s a := by
  induction h generalizing k with
  | @done n s a h =>
    obtain ⟨k, rfl⟩ : ∃ j, k = j + 1 := ⟨k - 1, by omega⟩
    exact .done h
  | @again n s s' a h _ ih =>
    obtain ⟨k, rfl⟩ : ∃ j, k = j + 1 := ⟨k - 1, by omega⟩
    exact .again h (ih (by omega))

/-- A function that takes round after round, as far as its number goes, tells what a loop leaves if a
measure grows less with each round and begins below that number. -/
theorem ends_of_measure {f : Nat → σ → α} (measure : σ → Nat)
    (hf : ∀ n s, f (n + 1) s = (round s).elim id (f n))
    (hless : ∀ s s', round s = .again s' → measure s' < measure s) {n : Nat} {s : σ}
    (h : measure s < n) : Ends round n s (f n s) := by
  induction n generalizing s with
  | zero => exact absurd h (Nat.not_lt_zero _)
  | succ n ih =>
    rw [hf]
    cases hround : round s with
    | done a => exact .done hround
    | again s' =>
      have := hless s s' hround
      exact .again hround (ih (by omega))

/-- A loop that ends does not go on for ever. -/
theorem Ends.not_forever {n : Nat} {s : σ} {a : α} (h : Ends round n s a) : ¬ Forever round s := by
  induction h with
  | done h =>
    intro hforever
    obtain ⟨s', hs', -⟩ := hforever.tail
    rw [h] at hs'
    cases hs'
  | again h _ ih =>
    intro hforever
    obtain ⟨s', hs', htail⟩ := hforever.tail
    rw [h] at hs'
    cases hs'
    exact ih htail

/-- A loop that does not end goes on for ever. -/
theorem forever_of_not_ends {s : σ} (h : ∀ n a, ¬ Ends round n s a) : Forever round s := by
  have hnext (s : σ) (h : ∀ n a, ¬ Ends round n s a) :
      ∃ s', round s = .again s' ∧ ∀ n a, ¬ Ends round n s' a := by
    cases hround : round s with
    | done a => exact absurd (.done hround) (h 1 a)
    | again s' => exact ⟨s', rfl, fun n a hends => h (n + 1) a (.again hround hends)⟩
  -- the states that are reached, each one with the fact that the loop does not end from there
  choose next hnext hrest using hnext
  let states : Nat → {s : σ // ∀ n a, ¬ Ends round n s a} :=
    Nat.rec ⟨s, h⟩ fun _ t => ⟨next t.1 t.2, hrest t.1 t.2⟩
  exact ⟨fun n => (states n).1, rfl, fun n => hnext (states n).1 (states n).2⟩

/-! ## What is answered -/

theorem loop_eq_round (s : σ) : loop round s = (round s).elim some (loop round) := by
  rw [loop]
  cases round s <;> rfl

theorem loop_of_ends {n : Nat} {s : σ} {a : α} (h : Ends round n s a) : loop round s = some a := by
  induction h with
  | done h =>
    rw [loop_eq_round, h]
    rfl
  | again h _ ih =>
    rw [loop_eq_round, h]
    exact ih

/-- An answer was found in a number of rounds. -/
theorem ends_of_loop {s : σ} {a : α} (h : loop round s = some a) : ∃ n, Ends round n s a := by
  refine loop.partial_correctness round (fun s a => ∃ n, Ends round n s a)
    (fun rest ih s a h => ?_) s a h
  cases hround : round s with
  | done b =>
    rw [hround] at h
    cases h
    exact ⟨1, .done hround⟩
  | again next =>
    rw [hround] at h
    obtain ⟨n, hn⟩ := ih next a h
    exact ⟨n + 1, .again hround hn⟩

/-- A loop without an answer goes on for ever. -/
theorem loop_eq_none_iff {s : σ} : loop round s = none ↔ Forever round s := by
  constructor
  · refine fun h => forever_of_not_ends fun n a hends => ?_
    rw [loop_of_ends hends] at h
    cases h
  · intro h
    cases hloop : loop round s with
    | none => rfl
    | some a =>
      obtain ⟨n, hends⟩ := ends_of_loop hloop
      exact absurd h hends.not_forever

end ZMachine
