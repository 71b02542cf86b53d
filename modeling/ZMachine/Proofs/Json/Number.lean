import Mathlib.Data.List.TakeDrop
import ZMachine.Proofs.Json.Quoted

/-!
# Numbers are read back

A number is written in decimal without zeros in front, behind a sign if it is negative.  It is read
up to the byte that does not go on it:

    number (utf8 (toString n) ++ rest) = some (integer n, rest)        when n has 64 bits, Ends rest
-/

namespace ZMachine.Json

/-! ## Numerals -/

/-- The digits of a number as they are written: no zero stands in front. -/
structure IsNumeral (n : Nat) (digits : List UInt8) : Prop where
  digit : ∀ b ∈ digits, isDigit b = true
  value : digitsValue digits = n
  zero : n = 0 → digits = [0x30]
  first : 0 < n → ∃ b more, digits = b :: more ∧ b ≠ 0x30

theorem IsNumeral.ne_nil {n : Nat} {digits : List UInt8} (h : IsNumeral n digits) :
    digits ≠ [] := by
  rcases Nat.eq_zero_or_pos n with h0 | hpos
  · rw [h.zero h0]
    exact List.cons_ne_nil _ _
  · obtain ⟨b, more, hcons, -⟩ := h.first hpos
    rw [hcons]
    exact List.cons_ne_nil _ _

theorem utf8EncodeChar_digitChar : ∀ d < 10,
    String.utf8EncodeChar (Nat.digitChar d) = [.ofNat (0x30 + d)] := by
  decide

theorem isDigit_digit : ∀ d < 10, isDigit (.ofNat (0x30 + d)) = true := by
  decide

theorem toNat_digit : ∀ d < 10, (UInt8.ofNat (0x30 + d)).toNat - 0x30 = d := by
  decide

theorem isNumeral_repr (n : Nat) : IsNumeral n (utf8 n.repr) := by
  rw [utf8_eq, Nat.toList_repr]
  induction n using Nat.strongRecOn with
  | _ n ih =>
    rw [Nat.toDigits_eq_if (by decide)]
    by_cases hn : n < 10
    · rw [if_pos hn, List.flatMap_singleton, utf8EncodeChar_digitChar n hn]
      refine ⟨?_, ?_, ?_, ?_⟩
      · intro b hb
        obtain rfl := List.mem_singleton.1 hb
        exact isDigit_digit n hn
      · show 10 * 0 + _ = n
        rw [toNat_digit n hn]
        omega
      · rintro rfl
        rfl
      · intro hpos
        refine ⟨_, _, rfl, fun heq => ?_⟩
        have hdigit := toNat_digit n hn
        rw [heq, show (0x30 : UInt8).toNat = 0x30 from rfl] at hdigit
        omega
    · have hd : n % 10 < 10 := Nat.mod_lt n (by decide)
      obtain ⟨hdigit, hvalue, -, hfirst⟩ := ih (n / 10) (by omega)
      rw [if_neg hn, List.flatMap_append, List.flatMap_singleton,
        utf8EncodeChar_digitChar (n % 10) hd]
      refine ⟨?_, ?_, ?_, ?_⟩
      · intro b hb
        rcases List.mem_append.1 hb with hb | hb
        · exact hdigit b hb
        · obtain rfl := List.mem_singleton.1 hb
          exact isDigit_digit (n % 10) hd
      · unfold digitsValue at hvalue ⊢
        rw [List.foldl_append, hvalue]
        show 10 * (n / 10) + _ = n
        rw [toNat_digit (n % 10) hd]
        omega
      · omega
      · intro _
        obtain ⟨b, more, hcons, hb⟩ := hfirst (by omega)
        rw [hcons]
        exact ⟨b, _, rfl, hb⟩

/-- What follows a value: not a byte that could go on a number. -/
def Ends (rest : List UInt8) : Prop :=
  ∀ b ∈ rest.head?, isDigit b = false ∧ b ≠ 0x2E ∧ b ≠ 0x65 ∧ b ≠ 0x45

theorem ends_nil : Ends [] := by
  intro b hb
  cases hb

theorem ends_cons {b : UInt8} (h : isDigit b = false ∧ b ≠ 0x2E ∧ b ≠ 0x65 ∧ b ≠ 0x45)
    (rest : List UInt8) : Ends (b :: rest) := by
  intro b' hb'
  obtain rfl := Option.some.inj hb'
  exact h

theorem span_digits {digits rest : List UInt8} (h : ∀ b ∈ digits, isDigit b = true)
    (hrest : Ends rest) : (digits ++ rest).span isDigit = (digits, rest) := by
  rw [List.span_eq_takeWhile_dropWhile, List.takeWhile_append_of_pos h,
    List.dropWhile_append_of_pos h]
  cases rest with
  | nil => simp
  | cons b rest =>
    obtain ⟨hb, -⟩ := hrest b rfl
    simp [hb]

theorem wholeDigits_numeral {n : Nat} {digits rest : List UInt8} (h : IsNumeral n digits)
    (hrest : Ends rest) : wholeDigits (digits ++ rest) = some (digits, rest) := by
  have hspan := span_digits h.digit hrest
  unfold wholeDigits
  split
  · next b more heq =>
    rcases Nat.eq_zero_or_pos n with h0 | hpos
    · rw [h.zero h0] at heq ⊢
      obtain ⟨-, rfl⟩ := List.cons.inj heq
      obtain ⟨hb, -⟩ := hrest b rfl
      rw [hb]
      rfl
    · obtain ⟨first, _, hcons, hfirst⟩ := h.first hpos
      rw [hcons] at heq
      exact absurd (List.cons.inj heq).1 hfirst
  · rw [hspan]
    simp [h.ne_nil]

theorem fraction_ends {rest : List UInt8} (h : Ends rest) : fraction rest = some ([], rest) := by
  unfold fraction
  split
  · obtain ⟨-, hpoint, -⟩ := h 0x2E rfl
    exact absurd rfl hpoint
  · rfl

theorem exponent_ends {rest : List UInt8} (h : Ends rest) : exponent rest = some (none, rest) := by
  cases rest with
  | nil => rfl
  | cons b rest =>
    obtain ⟨-, -, hlower, hupper⟩ := h b rfl
    have hnone : ¬ (b = 0x65 ∨ b = 0x45) := by
      simp [hlower, hupper]
    unfold exponent
    dsimp only
    rw [if_neg hnone]

/-- The numeral of a number of 64 bits is read as that number. -/
theorem unsignedNumber_numeral {negative : Bool} {n : Nat} {digits rest : List UInt8}
    (h : IsNumeral n digits) (hrest : Ends rest)
    (hn : (if negative then 0 < n && n ≤ int64Bound else n < UInt64.size : Bool) = true) :
    unsignedNumber negative (digits ++ rest) =
      some (integer (if negative then -n else n), rest) := by
  unfold unsignedNumber
  rw [wholeDigits_numeral h hrest]
  show (fraction rest >>= _) = _
  rw [fraction_ends hrest]
  show (exponent rest >>= _) = _
  rw [exponent_ends hrest]
  show (if (true && true && (if negative then 0 < digitsValue digits && digitsValue digits ≤ int64Bound
    else digitsValue digits < UInt64.size : Bool)) = true then _ else _) = _
  rw [h.value, hn]
  rfl

/-! ## Numbers with a sign -/

theorem utf8_toString_of_nonneg {n : Int} (h : 0 ≤ n) : utf8 (toString n) = utf8 n.toNat.repr := by
  obtain ⟨k, rfl⟩ := Int.eq_ofNat_of_zero_le h
  rfl

theorem utf8_toString_of_neg {n : Int} (h : n < 0) :
    utf8 (toString n) = 0x2D :: utf8 (-n).toNat.repr := by
  obtain ⟨k, rfl⟩ := Int.eq_negSucc_of_lt_zero h
  show utf8 ("-" ++ (k + 1).repr) = _
  rw [utf8_append, show utf8 "-" = [0x2D] from utf8_eq _]
  rfl

/-- Numbers start with a digit or with the sign. -/
def StartsNumber (b : UInt8) : Prop :=
  isDigit b = true ∨ b = 0x2D

/-- Other values and white space start with other bytes. -/
theorem StartsNumber.ne {b c : UInt8} (h : StartsNumber b)
    (hc : isDigit c = false ∧ c ≠ 0x2D) : b ≠ c := by
  rintro rfl
  rcases h with hdigit | hsign
  · rw [hc.1] at hdigit
    cases hdigit
  · exact hc.2 hsign

theorem IsNumeral.startsNumber {n : Nat} {digits : List UInt8} (h : IsNumeral n digits) :
    ∃ b more, digits = b :: more ∧ isDigit b = true := by
  cases hcons : digits with
  | nil => exact absurd hcons h.ne_nil
  | cons b more => exact ⟨b, more, rfl, h.digit b (hcons ▸ List.mem_cons_self ..)⟩

/-- A number of 64 bits is read from its bytes. -/
theorem number_toString {n : Int} (hlow : -(int64Bound : Int) ≤ n) (hhigh : n < UInt64.size)
    {rest : List UInt8} (hrest : Ends rest) :
    ∃ b more, utf8 (toString n) = b :: more ∧ StartsNumber b ∧
      number (b :: more ++ rest) = some (.integer n, rest) := by
  by_cases hneg : n < 0
  · have hnumeral := isNumeral_repr (-n).toNat
    refine ⟨0x2D, utf8 (-n).toNat.repr, utf8_toString_of_neg hneg, .inr rfl, ?_⟩
    have hbound : (if true then 0 < (-n).toNat && (-n).toNat ≤ int64Bound
        else (-n).toNat < UInt64.size : Bool) = true := by
      simp
      omega
    have hread := unsignedNumber_numeral hnumeral hrest hbound
    refine hread.trans ?_
    simp
    omega
  · have hnumeral := isNumeral_repr n.toNat
    obtain ⟨b, more, hcons, hdigit⟩ := hnumeral.startsNumber
    have hbound : (if false then 0 < n.toNat && n.toNat ≤ int64Bound
        else n.toNat < UInt64.size : Bool) = true := by
      simp
      omega
    have hread := unsignedNumber_numeral hnumeral hrest hbound
    refine ⟨b, more, (utf8_toString_of_nonneg (by omega)).trans hcons, .inl hdigit, ?_⟩
    rw [← hcons]
    have hnumber : number (utf8 n.toNat.repr ++ rest) =
        unsignedNumber false (utf8 n.toNat.repr ++ rest) := by
      rw [hcons, List.cons_append]
      unfold number
      split
      · next heq =>
        obtain ⟨rfl, -⟩ := List.cons.inj heq
        cases hdigit
      · rfl
    rw [hnumber, hread]
    simp
    omega

end ZMachine.Json
