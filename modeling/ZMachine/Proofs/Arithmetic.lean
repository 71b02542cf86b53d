import Mathlib.Data.Int.ModEq
import Mathlib.Data.Rat.Floor
import Mathlib.Tactic.NormNum
import Mathlib.Tactic.Ring
import ZMachine.Arithmetic

/-!
# Words as integers

A word stands for an integer modulo 65536, whether its sign is read or not:

    ofInt (signed w) = w        ofInt w.toNat = w

A shift by a signed count comes to `⌊x · 2ⁿ⌋`, where `x` is what the word is read as.  The word of
it is what `shift` answers, for every count, with one exception: a negative number that an arithmetic
shift takes out of the word to the left leaves all ones, where the integer leaves none.

    shift arithmetic a n = ofInt ⌊reading arithmetic a · 2ⁿ⌋      unless Overshoots a n
    shift true a n       = 0xFFFF                                 when Overshoots a n
-/

namespace ZMachine

/-! ## Readings of a word -/

theorem signed_eq (w : UInt16) :
    signed w = if w.toNat < 32768 then (w.toNat : Int) else w.toNat - 65536 := by
  have h : signed w = w.toBitVec.toInt := rfl
  rw [h, BitVec.toInt_eq_toNat_cond]
  simp only [UInt16.toNat_toBitVec]
  split <;> split <;> omega

theorem toNat_ofInt (x : Int) : ((UInt16.ofInt x).toNat : Int) = x % 65536 := by
  unfold UInt16.ofInt
  rw [UInt16.toNat_ofNat']
  omega

theorem ofInt_eq_iff (x : Int) (w : UInt16) : UInt16.ofInt x = w ↔ x % 65536 = w.toNat := by
  rw [← toNat_ofInt, Nat.cast_inj, UInt16.toNat_inj]

/-- A word is that of its signed reading. -/
theorem ofInt_signed (w : UInt16) : UInt16.ofInt (signed w) = w := by
  have := w.toNat_lt
  rw [ofInt_eq_iff, signed_eq]
  split <;> omega

/-- A word is that of its unsigned reading. -/
theorem ofInt_toNat (w : UInt16) : UInt16.ofInt w.toNat = w := by
  have := w.toNat_lt
  rw [ofInt_eq_iff]
  omega

theorem ofInt_neg_one : UInt16.ofInt (-1) = 0xFFFF := by decide

theorem ofInt_sub (x y : Int) : UInt16.ofInt (x - y) = .ofInt x - .ofInt y := by
  rw [ofInt_eq_iff, UInt16.toNat_sub]
  have hx := toNat_ofInt x
  have hy := toNat_ofInt y
  omega

namespace Arithmetic

/-! ## Numbers that are shifted -/

/-- The integer that a number comes to when it is shifted by a signed count. -/
def scaled (x n : Int) : Int :=
  ⌊(x : ℚ) * 2 ^ n⌋

theorem scaled_natCast (x : Int) (k : Nat) : scaled x k = x * 2 ^ k := by
  unfold scaled
  rw [zpow_natCast]
  exact_mod_cast Int.floor_intCast (R := ℚ) (x * 2 ^ k)

theorem scaled_neg_natCast (x : Int) (k : Nat) : scaled x (-k) = x / 2 ^ k := by
  unfold scaled
  rw [zpow_neg, zpow_natCast, ← div_eq_mul_inv]
  have h := Rat.floor_intCast_div_natCast x (2 ^ k)
  push_cast at h
  exact h

/-- A shift by all the places of a word or more leaves no bit of it. -/
theorem ofInt_scaled_of_le (x : Int) {n : Int} (hn : 16 ≤ n) : UInt16.ofInt (scaled x n) = 0 := by
  obtain ⟨k, rfl⟩ := Int.eq_ofNat_of_zero_le (show 0 ≤ n - 16 by omega) |>.imp fun k h =>
    (show n = (16 + k : Nat) by omega)
  rw [scaled_natCast, pow_add, ofInt_eq_iff]
  have hfactor : x * (2 ^ 16 * 2 ^ k) = x * 2 ^ k * 65536 := by ring
  rw [hfactor, Int.mul_emod_left]
  rfl

theorem places_toNat {k : Nat} (hk : k < 16) : (UInt16.ofInt k).toNat = k := by
  have := toNat_ofInt k
  omega

theorem shiftLeft_eq (x : Int) {k : Nat} (hk : k < 16) :
    UInt16.ofInt x <<< UInt16.ofInt k = .ofInt (scaled x k) := by
  symm
  rw [scaled_natCast, ofInt_eq_iff, UInt16.toNat_shiftLeft, Nat.shiftLeft_eq, places_toNat hk,
    Nat.mod_eq_of_lt hk]
  push_cast
  rw [toNat_ofInt]
  exact (Int.mod_modEq x 65536).symm.mul_right _

theorem shiftRight_eq (w : UInt16) {k : Nat} (hk : k < 16) :
    w >>> UInt16.ofInt k = .ofInt (scaled w.toNat (-k)) := by
  symm
  rw [scaled_neg_natCast, ofInt_eq_iff, UInt16.toNat_shiftRight, Nat.shiftRight_eq_div_pow,
    places_toNat hk, Nat.mod_eq_of_lt hk]
  have hlt := w.toNat_lt
  have hle := Nat.div_le_self w.toNat (2 ^ k)
  push_cast
  exact Int.emod_eq_of_lt (by positivity) (by exact_mod_cast hle.trans_lt hlt)

/-! ## Shifts of a word -/

/-- What a shift reads a word as: an arithmetic one reads its sign. -/
def reading (arithmetic : Bool) (w : UInt16) : Int :=
  if arithmetic then signed w else w.toNat

theorem ofInt_reading (arithmetic : Bool) (w : UInt16) :
    UInt16.ofInt (reading arithmetic w) = w := by
  cases arithmetic with
  | false => exact ofInt_toNat w
  | true => exact ofInt_signed w

theorem reading_bounds (arithmetic : Bool) (w : UInt16) :
    -65536 ≤ reading arithmetic w ∧ reading arithmetic w < 65536 := by
  have := w.toNat_lt
  cases arithmetic with
  | false => exact ⟨by unfold reading; simp, by unfold reading; simp; omega⟩
  | true =>
    show -65536 ≤ signed w ∧ signed w < 65536
    rw [signed_eq]
    split <;> omega

/-- A number of the size of a word that is shifted far to the right. -/
theorem scaled_neg_of_le {x : Int} (hlow : -65536 ≤ x) (hhigh : x < 65536) {k : Nat} (hk : 16 ≤ k) :
    scaled x (-k) = if x < 0 then -1 else 0 := by
  have hpow : (65536 : Int) ≤ 2 ^ k := by
    exact_mod_cast Nat.pow_le_pow_right (show 0 < 2 by decide) hk
  rw [scaled_neg_natCast]
  split
  · next hneg => exact Int.ediv_eq_neg_one_of_neg_of_le hneg (by omega)
  · next hneg => exact Int.ediv_eq_zero_of_lt (by omega) (by omega)

/-- Whether an arithmetic shift takes a negative number out of its word to the left. -/
def Overshoots (a n : UInt16) : Prop :=
  signed a < 0 ∧ 16 ≤ signed n

instance (a n : UInt16) : Decidable (Overshoots a n) :=
  inferInstanceAs (Decidable (_ ∧ _))

/-- The sign is all that such a shift leaves. -/
theorem shift_of_overshoots {a n : UInt16} (h : Overshoots a n) : shift true a n = 0xFFFF := by
  obtain ⟨hneg, hn⟩ := h
  unfold shift
  dsimp only
  rw [if_neg (by omega), if_neg (by omega), if_pos (by simpa using hneg)]

/-- Any other shift answers the word of the integer it comes to. -/
theorem shift_eq (arithmetic : Bool) (a n : UInt16) (h : arithmetic = true → ¬ Overshoots a n) :
    shift arithmetic a n = .ofInt (scaled (reading arithmetic a) (signed n)) := by
  unfold shift
  dsimp only
  by_cases hleft : 0 ≤ signed n ∧ signed n < 16
  · obtain ⟨k, hk⟩ := Int.eq_ofNat_of_zero_le hleft.1
    rw [if_pos hleft, hk]
    have hshift := shiftLeft_eq (reading arithmetic a) (k := k) (by omega)
    rwa [ofInt_reading] at hshift
  rw [if_neg hleft]
  by_cases hright : -16 < signed n ∧ signed n < 0
  · obtain ⟨k, hk⟩ := Int.eq_ofNat_of_zero_le (show 0 ≤ -signed n by omega)
    have hn : signed n = -k := by omega
    rw [if_pos hright, hn, Int.neg_neg]
    cases arithmetic with
    | false => exact shiftRight_eq a (by omega)
    | true =>
      rw [scaled_neg_natCast, if_pos rfl, Int.toNat_natCast, Int.shiftRight_eq_div_pow]
      push_cast
      rfl
  rw [if_neg hright]
  by_cases hfar : 16 ≤ signed n
  · rw [ofInt_scaled_of_le _ hfar]
    refine if_neg fun hneg => ?_
    simp only [Bool.and_eq_true, decide_eq_true_eq] at hneg
    exact h hneg.1 ⟨hneg.2, hfar⟩
  · obtain ⟨k, hk⟩ := Int.eq_ofNat_of_zero_le (show 0 ≤ -signed n by omega)
    have hn : signed n = -k := by omega
    obtain ⟨hlow, hhigh⟩ := reading_bounds arithmetic a
    rw [hn, scaled_neg_of_le hlow hhigh (by omega)]
    cases arithmetic with
    | false =>
      have hpos : ¬ reading false a < 0 := Int.not_lt.2 (Int.natCast_nonneg a.toNat)
      rw [if_neg hpos]
      rfl
    | true =>
      show (if (true && decide (signed a < 0)) = true then 0xFFFF else 0) =
        UInt16.ofInt (if signed a < 0 then -1 else 0)
      by_cases hneg : signed a < 0
      · rw [if_pos hneg, if_pos (by simpa using hneg), ofInt_neg_one]
      · rw [if_neg hneg, if_neg (by simpa using hneg)]
        rfl

end Arithmetic

end ZMachine
