import Mathlib.Data.List.Forall2
import ZMachine.Random

/-!
# The numbers that are drawn

The random numbers of a story are given seeds, are brought back to the baseline and are asked for
numbers, in any order and with any ranges.  There is one answer to each of these calls:

    1 ≤ number ≤ range        a number for a positive range
    i % s % range + 1         the same, where i numbers were drawn since the seed s, 0 < s < 1000

The counter depends on the seed and on how many numbers were drawn, and on none of their ranges.  So a
range that is smaller than the seed cuts its own number down and leaves the count as it is.
-/

namespace ZMachine

/-! ## The generator -/

namespace Xoshiro

/-- Whatever was redrawn, a number is made from 64 bits of the generator. -/
theorem draw_fst (range redraws : Nat) (g : Xoshiro) :
    ∃ bits : UInt64, (g.draw range redraws).1 = 1 + (bits >>> 32).toNat * range / UInt32.size := by
  induction redraws generalizing g with
  | zero => exact ⟨g.next.1, rfl⟩
  | succ redraws ih =>
    unfold draw
    dsimp only
    split
    · exact ⟨g.next.1, rfl⟩
    · exact ih g.next.2

theorem high_lt (bits : UInt64) : (bits >>> 32).toNat < UInt32.size := by
  have hbits := bits.toNat_lt
  rw [UInt64.toNat_shiftRight, Nat.shiftRight_eq_div_pow]
  show bits.toNat / 2 ^ 32 < 2 ^ 32
  omega

theorem draw_inRange {range : Nat} (h : 0 < range) (redraws : Nat) (g : Xoshiro) :
    1 ≤ (g.draw range redraws).1 ∧ (g.draw range redraws).1 ≤ range := by
  obtain ⟨bits, hbits⟩ := draw_fst range redraws g
  have hhigh : (bits >>> 32).toNat * range / UInt32.size < range := by
    apply Nat.div_lt_of_lt_mul
    exact Nat.mul_lt_mul_of_pos_right (high_lt bits) h
  rw [hbits]
  constructor
  · exact Nat.le_add_right 1 _
  · rw [Nat.add_comm]
    exact hhigh

end Xoshiro

namespace Random

/-! ## One number -/

/-- Where numbers are counted, the counter goes on by one, and from the seed it goes back to 1. -/
theorem next_of_counts {r : Random} (h : 0 < r.seed ∧ r.seed < predictableLimit) (n : Entropy)
    (range : Nat) :
    r.next n range =
      (r.counter % r.seed % range + 1, { r with counter := r.counter % r.seed + 1 }, n) := by
  unfold next
  rw [if_pos h]
  rfl

/-- Where they are not counted, a generator draws the number, and the counter stays. -/
theorem next_of_not_counts {r : Random} (h : ¬ (0 < r.seed ∧ r.seed < predictableLimit))
    (n : Entropy) (range : Nat) :
    ∃ (g g' : Xoshiro) (n' : Entropy), r.next n range =
      ((g.draw (max 1 range) maxRedraws).1, { r with generator := some g' }, n') := by
  unfold next
  rw [if_neg h]
  exact ⟨_, _, _, rfl⟩

/-- In both modes a number lies in the range it is drawn for. -/
theorem next_inRange (r : Random) (n : Entropy) {range : Nat} (h : 0 < range) :
    1 ≤ (r.next n range).1 ∧ (r.next n range).1 ≤ range := by
  by_cases hcounts : 0 < r.seed ∧ r.seed < predictableLimit
  · rw [next_of_counts hcounts]
    constructor
    · exact Nat.le_add_left 1 _
    · exact Nat.mod_lt _ h
  · obtain ⟨g, g', n', hnext⟩ := next_of_not_counts hcounts n range
    rw [hnext, Nat.max_eq_right h]
    exact Xoshiro.draw_inRange h _ g

/-- Where the counter stands when some numbers were drawn since a small seed: at 0 before the first of
them, and then it goes from 1 to the seed, over and over. -/
def count (s : Nat) : (drawn : Nat) → Nat
  | 0 => 0
  | drawn + 1 => drawn % s + 1

theorem count_mod (s drawn : Nat) : count s drawn % s = drawn % s := by
  cases drawn with
  | zero => rfl
  | succ drawn => exact Nat.mod_add_mod drawn s 1

/-- The random numbers when some numbers were drawn since a small seed. -/
def counting (s drawn : Nat) : Random :=
  { ofSeed s with counter := count s drawn }

/-- The next number depends on how many were drawn before it, and on no range but its own. -/
theorem next_counting {s : Nat} (hpos : 0 < s) (hs : s < predictableLimit) (drawn : Nat)
    (n : Entropy) (range : Nat) :
    (counting s drawn).next n range =
      (drawn % s % range + 1, counting s (drawn + 1), n) := by
  have hcounter : (counting s drawn).counter % s = drawn % s := count_mod s drawn
  rw [next_of_counts ⟨hpos, hs⟩]
  show ((counting s drawn).counter % s % range + 1,
    { counting s drawn with counter := (counting s drawn).counter % s + 1 }, n) = _
  rw [hcounter]
  rfl

/-! ## Any number of calls -/

/-- What is done with the random numbers. -/
inductive Call where
  | seed (s : Nat)
  | reset
  | next (range : Nat)
deriving DecidableEq

/-- The answer to a call, with the random numbers and the supply of seeds after it. -/
def answer (g : Random × Entropy) : Call → Option Nat × Random × Entropy
  | .seed s => (none, ofSeed s, g.2)
  | .reset => (none, {}, g.2)
  | .next range => (some (g.1.next g.2 range).1, (g.1.next g.2 range).2)

/-- The random numbers and the supply of seeds after some calls. -/
def after (g : Random × Entropy) (calls : List Call) : Random × Entropy :=
  calls.foldl (fun g call => (answer g call).2) g

/-- The answers to some calls, the first one first. -/
def answers : Random × Entropy → List Call → List (Option Nat)
  | _, [] => []
  | g, call :: rest => (answer g call).1 :: answers (answer g call).2 rest

/-- What a call may be answered with: a number of the range that it asks for, or nothing where it asks
for none. -/
inductive Call.Admits : Call → Option Nat → Prop
  | seed {s : Nat} : Admits (.seed s) none
  | reset : Admits .reset none
  | next {range number : Nat} (hlow : 1 ≤ number) (hhigh : number ≤ range) :
      Admits (.next range) (some number)

theorem answer_admitted (g : Random × Entropy) {call : Call}
    (h : ∀ range, call = .next range → 0 < range) : call.Admits (answer g call).1 := by
  cases call with
  | seed s => exact .seed
  | reset => exact .reset
  | next range =>
    obtain ⟨hlow, hhigh⟩ := next_inRange g.1 g.2 (h range rfl)
    exact .next hlow hhigh

theorem answers_admitted (g : Random × Entropy) {calls : List Call}
    (h : ∀ range, .next range ∈ calls → 0 < range) :
    List.Forall₂ Call.Admits calls (answers g calls) := by
  induction calls generalizing g with
  | nil => exact .nil
  | cons call rest ih =>
    apply List.Forall₂.cons
    · apply answer_admitted
      rintro range rfl
      exact h range List.mem_cons_self
    · apply ih
      intro range hrange
      exact h range (List.mem_cons_of_mem _ hrange)

theorem answers_append (g : Random × Entropy) (first second : List Call) :
    answers g (first ++ second) = answers g first ++ answers (after g first) second := by
  induction first generalizing g with
  | nil => rfl
  | cons call rest ih => exact congrArg ((answer g call).1 :: ·) (ih _)

theorem length_answers (g : Random × Entropy) (calls : List Call) :
    (answers g calls).length = calls.length := by
  induction calls generalizing g with
  | nil => rfl
  | cons call rest ih => exact congrArg (· + 1) (ih _)

/-- Numbers that are drawn one after another are counted, whatever is called for after them. -/
theorem answers_counting {s : Nat} (hpos : 0 < s) (hs : s < predictableLimit) (n : Entropy)
    (later : List Call) {ranges : List Nat} (drawn : Nat) {i range : Nat}
    (hi : ranges[i]? = some range) :
    (answers (counting s drawn, n) (ranges.map .next ++ later))[i]? =
      some (some ((drawn + i) % s % range + 1)) := by
  induction ranges generalizing drawn i with
  | nil => cases hi
  | cons first rest ih =>
    have hnext : answer (counting s drawn, n) (.next first) =
        (some (drawn % s % first + 1), counting s (drawn + 1), n) := by
      show (some ((counting s drawn).next n first).1, ((counting s drawn).next n first).2) = _
      rw [next_counting hpos hs]
    rw [List.map_cons, List.cons_append, answers, hnext]
    cases i with
    | zero =>
      cases hi
      rfl
    | succ i =>
      have hrest := ih (drawn + 1) hi
      rw [Nat.add_right_comm, Nat.add_assoc] at hrest
      exact hrest

example : answers ({}, ⟨0⟩) (.seed 3 :: List.replicate 7 (.next 100)) =
    none :: [1, 2, 3, 1, 2, 3, 1].map some := by decide

/-- **Random numbers stay in their ranges, and small seeds count.**  Whatever seeds are given and
whenever the baseline is gone back to, each call for a number of a positive range is answered with a
number of that range.  After a seed from 1 to 999 the numbers up to the next seed or the next return to
the baseline go from 1 to the seed, over and over, each of them cut down to its own range. -/
theorem answers_admitted_and_counted (g : Random × Entropy) {calls : List Call}
    (hranges : ∀ range, .next range ∈ calls → 0 < range) :
    List.Forall₂ Call.Admits calls (answers g calls) ∧
      ∀ (before : List Call) (s : Nat) (ranges : List Nat) (later : List Call),
        calls = before ++ .seed s :: (ranges.map .next ++ later) → 0 < s → s < 1000 →
          ∀ i range, ranges[i]? = some range →
            (answers g calls)[before.length + 1 + i]? = some (some (i % s % range + 1)) := by
  refine ⟨answers_admitted g hranges, ?_⟩
  rintro before s ranges later rfl hpos hs i range hi
  have hcounted := answers_counting hpos hs (after g before).2 later 0 hi
  have hplace : before.length + 1 + i - before.length = i + 1 := by omega
  rw [Nat.zero_add] at hcounted
  rw [answers_append, List.getElem?_append_right (by rw [length_answers]; omega), length_answers,
    hplace]
  exact hcounted

/-- A large seed, the seed 3 with ranges above and below it, the baseline, and a small seed again. -/
def mixedCalls : List Call :=
  [.next 6, .seed 5000, .next 6] ++
    .seed 3 :: ([100, 2, 2, 2, 100, 100].map .next ++ [.reset, .next 1, .seed 2, .next 9])

/-- The count to 3 begins again with the fourth number, and in a range of 2 the third one is 1. -/
theorem answers_admitted_and_counted_mixed :
    (∀ range, .next range ∈ mixedCalls → 0 < range) ∧
      List.Forall₂ Call.Admits mixedCalls (answers ({}, ⟨0⟩) mixedCalls) ∧
      (answers ({}, ⟨0⟩) mixedCalls)[5]? = some (some 2) ∧
      (answers ({}, ⟨0⟩) mixedCalls)[6]? = some (some 1) ∧
      (answers ({}, ⟨0⟩) mixedCalls)[7]? = some (some 1) ∧
      (answers ({}, ⟨0⟩) mixedCalls)[9]? = some (some 3) := by
  have hranges : ∀ range, .next range ∈ mixedCalls → 0 < range := by
    intro range h
    apply Nat.pos_of_ne_zero
    rintro rfl
    exact absurd h (by decide)
  obtain ⟨hadmitted, hcounted⟩ := answers_admitted_and_counted ({}, ⟨0⟩) hranges
  have hthree := hcounted _ 3 _ _ rfl (by decide) (by decide)
  exact ⟨hranges, hadmitted, hthree 1 2 rfl, hthree 2 2 rfl, hthree 3 2 rfl, hthree 5 100 rfl⟩

end Random

end ZMachine
