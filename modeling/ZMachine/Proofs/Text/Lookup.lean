import ZMachine.Proofs.Execution.Rounds
import ZMachine.Proofs.Text.Dictionary

/-!
# Halving and looking one by one

A dictionary whose entries are sorted is searched by halving, another one from its first entry on.
Where the entries lie in the memory both searches come to an answer, and both answers are about the
same keys:

    lookup d m key = .ok 0      ↔   no entry has the key
    lookup d m key = .ok e      →   e is the address of an entry with the key      (e ≠ 0)

An entry is all that the two can differ in.  Where no two entries have the same key they do not
differ.
-/

namespace ZMachine.Dictionary

variable {d : Dictionary} {m : Memory} {key : List UInt8}

/-- Whether the keys of all entries lie in the memory. -/
def Inside (d : Dictionary) (m : Memory) : Prop :=
  ∀ i < d.count.natAbs, d.entry i + 6 ≤ m.size

/-- Whether no two entries have the same key. -/
def Distinct (d : Dictionary) (m : Memory) : Prop :=
  ∀ i j key, i < d.count.natAbs → j < d.count.natAbs → d.HasKey m i key → d.HasKey m j key → i = j

/-- The same entries, not said to be sorted. -/
def unsorted (d : Dictionary) : Dictionary :=
  { d with count := -d.count }

/-! ## An answer -/

theorem Inside.exists_hasKey (h : d.Inside m) {i : Nat} (hi : i < d.count.natAbs) :
    ∃ key, d.HasKey m i key :=
  ⟨_, if_pos (h i hi)⟩

theorem searchSorted_answers (h : d.Inside m) (key : List UInt8) (fuel low : Nat) {high : Nat}
    (hhigh : high ≤ d.count.natAbs) : ∃ e, d.searchSorted m key fuel low high = .ok e := by
  induction fuel generalizing low high with
  | zero => exact ⟨0, rfl⟩
  | succ fuel ih =>
    unfold searchSorted
    by_cases hlt : low < high
    · obtain ⟨k, hk⟩ := h.exists_hasKey (i := (low + high) / 2) (by omega)
      unfold HasKey at hk
      rw [if_pos hlt]
      dsimp only
      rw [hk]
      dsimp only [bind, Except.bind]
      cases compare k key with
      | eq => exact ⟨_, rfl⟩
      | lt => exact ih _ hhigh
      | gt => exact ih _ (by omega)
    · rw [if_neg hlt]
      exact ⟨0, rfl⟩

theorem searchLinear_answers (h : d.Inside m) (key : List UInt8) {count i : Nat}
    (hi : i + count ≤ d.count.natAbs) : ∃ e, d.searchLinear m key count i = .ok e := by
  induction count generalizing i with
  | zero => exact ⟨0, rfl⟩
  | succ count ih =>
    obtain ⟨k, hk⟩ := h.exists_hasKey (i := i) (by omega)
    unfold HasKey at hk
    unfold searchLinear
    rw [hk]
    show ∃ e, (if k = key then _ else _ : Except OutOfRange Nat) = .ok e
    by_cases hkey : k = key
    · rw [if_pos hkey]
      exact ⟨_, rfl⟩
    · rw [if_neg hkey]
      exact ih (by omega)

theorem lookup_answers (h : d.Inside m) (key : List UInt8) : ∃ e, d.lookup m key = .ok e := by
  unfold lookup
  by_cases hcount : 0 < d.count
  · rw [if_pos hcount]
    exact searchSorted_answers h key _ 0 (Nat.le_refl _)
  · rw [if_neg hcount]
    exact searchLinear_answers h key (by omega)

/-! ## What it says -/

/-- No entry is at address 0, so that 0 tells that there is none. -/
theorem Finds.eq_zero_iff {low high e : Nat} (h : d.Finds m key low high e)
    (hplace : ∀ i, 0 < d.entry i) :
    e = 0 ↔ ∀ i, low ≤ i → i < high → ¬ d.HasKey m i key := by
  cases h with
  | @listed i hlow hhigh hkey =>
    have := hplace i
    exact ⟨fun hzero => by omega, fun hnone => absurd hkey (hnone i hlow hhigh)⟩
  | unlisted habsent => exact ⟨fun _ => habsent, fun _ => rfl⟩

/-- What is found is an entry with the key. -/
theorem Finds.exists_of_ne_zero {low high e : Nat} (h : d.Finds m key low high e) (he : e ≠ 0) :
    ∃ i < high, d.entry i = e ∧ d.HasKey m i key := by
  cases h with
  | listed hlow hhigh hkey => exact ⟨_, hhigh, rfl, hkey⟩
  | unlisted => exact absurd rfl he

/-- Where no two entries have the same key, there is one answer only. -/
theorem Finds.unique {e e' : Nat} (h : d.Finds m key 0 d.count.natAbs e)
    (h' : d.Finds m key 0 d.count.natAbs e') (hdistinct : d.Distinct m) : e' = e := by
  cases h with
  | listed _ hhigh hkey =>
    cases h' with
    | listed _ hhigh' hkey' => rw [hdistinct _ _ key hhigh' hhigh hkey' hkey]
    | unlisted habsent => exact absurd hkey (habsent _ (Nat.zero_le _) hhigh)
  | unlisted habsent =>
    cases h' with
    | listed _ hhigh' hkey' => exact absurd hkey' (habsent _ (Nat.zero_le _) hhigh')
    | unlisted => rfl

/-- **Halving agrees with looking one by one.**  Among sorted entries that lie in the memory halving
comes to an end, with no bound on its rounds, and finds an entry with the key if there is one. -/
theorem halving_agrees {m₀ : Memory} {address : Nat} (hread : Dictionary.read m₀ address = .ok d)
    (hcount : 0 < d.count) (hinside : d.Inside m) (hsorted : d.Sorted m) (key : List UInt8) :
    ∃ e, d.lookup m key = .ok e ∧
      loop (d.halveRound m key) (0, d.count.natAbs) = some (.ok e) ∧
      (e = 0 ↔ ∀ i < d.count.natAbs, ¬ d.HasKey m i key) ∧
      (e ≠ 0 → ∃ i < d.count.natAbs, d.entry i = e ∧ d.HasKey m i key) ∧
      (d.Distinct m → d.unsorted.lookup m key = .ok e) := by
  obtain ⟨e, he⟩ := lookup_answers hinside key
  have hfinds := lookup_finds (fun _ => hsorted) he
  have hplace (i : Nat) : 0 < d.entry i := Nat.lt_of_lt_of_le (by decide) (four_le_entry hread i)
  refine ⟨e, he, ?_, ?_, hfinds.exists_of_ne_zero, fun hdistinct => ?_⟩
  · have hends := d.searchSorted_ends m key d.count.natAbs
    unfold lookup at he
    rw [if_pos hcount] at he
    rw [loop_of_ends hends, he]
  · rw [hfinds.eq_zero_iff hplace]
    exact ⟨fun h i hi => h i (Nat.zero_le i) hi, fun h i _ hi => h i hi⟩
  · have hsame : d.unsorted.count.natAbs = d.count.natAbs := Int.natAbs_neg d.count
    have hnot : ¬ 0 < d.unsorted.count := by
      show ¬ 0 < -d.count
      omega
    obtain ⟨e', he'⟩ := lookup_answers (d := d.unsorted) (fun i hi => hinside i (hsame ▸ hi)) key
    have hfinds' := lookup_finds (fun h => absurd h hnot) he'
    rw [hsame] at hfinds'
    -- the entries of the two are the same ones, since the count does not tell where they lie
    have hmoved : d.Finds m key 0 d.count.natAbs e' := by
      cases hfinds' with
      | listed hlow hhigh hkey => exact .listed (d := d) hlow hhigh hkey
      | unlisted habsent => exact .unlisted habsent
    rw [he', hfinds.unique hmoved hdistinct]

/-! ## Three entries -/

namespace ThreeEntries

/-- Keys that go up, the first two of them only in their last byte. -/
def keys : List (List UInt8) :=
  [[1, 1, 1, 1, 1, 1], [1, 1, 1, 1, 1, 2], [2, 0, 0, 0, 0, 0]]

/-- A dictionary without separators and with a byte behind each key. -/
def memory : Memory :=
  .ofList ([0, 7, 0, 3] ++ keys.flatMap (· ++ [0xFF]))

def dictionary : Dictionary :=
  ⟨[], 7, 3, 4⟩

theorem hasKey_iff {i : Nat} (hi : i < 3) (key : List UInt8) :
    dictionary.HasKey memory i key ↔ key = keys.getD i [] := by
  have hkey : dictionary.HasKey memory i (keys.getD i []) := by
    obtain rfl | rfl | rfl : i = 0 ∨ i = 1 ∨ i = 2 := by omega
    all_goals rfl
  exact ⟨fun h => h.eq hkey, fun h => h ▸ hkey⟩

theorem sorted : dictionary.Sorted memory := by
  intro i j key key' hij hj hkey hkey'
  have hj3 : j < 3 := hj
  rw [hasKey_iff (by omega)] at hkey
  rw [hasKey_iff hj3] at hkey'
  subst hkey hkey'
  have hkeys : ∀ j < 3, ∀ i < j, (compare (keys.getD i []) (keys.getD j [])).isLE := by decide
  exact hkeys j hj3 i hij

theorem distinct : dictionary.Distinct memory := by
  intro i j key hi hj hkey hkey'
  have hi3 : i < 3 := hi
  have hj3 : j < 3 := hj
  rw [hasKey_iff hi3] at hkey
  rw [hasKey_iff hj3] at hkey'
  have hkeys : ∀ i < 3, ∀ j < 3, keys.getD i [] = keys.getD j [] → i = j := by decide
  exact hkeys i hi3 j hj3 (hkey.symm.trans hkey')

end ThreeEntries

open ThreeEntries in
/-- The last entry is found in two halvings, and in three looks. -/
theorem halving_agrees_threeEntries :
    Dictionary.read memory 0 = .ok dictionary ∧ 0 < dictionary.count ∧
      dictionary.Inside memory ∧ dictionary.Sorted memory ∧ dictionary.Distinct memory ∧
      dictionary.lookup memory [2, 0, 0, 0, 0, 0] = .ok 18 ∧
      dictionary.unsorted.lookup memory [2, 0, 0, 0, 0, 0] = .ok 18 := by
  have hread : Dictionary.read memory 0 = .ok dictionary := rfl
  have hinside : dictionary.Inside memory := by
    intro i hi
    have hi3 : i < 3 := hi
    show 4 + i * 7 + 6 ≤ 25
    omega
  obtain ⟨e, he, -, hnone, hfound, hlinear⟩ :=
    halving_agrees hread (by decide) hinside sorted [2, 0, 0, 0, 0, 0]
  have hlast : dictionary.HasKey memory 2 [2, 0, 0, 0, 0, 0] := (hasKey_iff (by decide) _).2 rfl
  have hne : e ≠ 0 := fun h => hnone.1 h 2 (by decide) hlast
  obtain ⟨i, hi, rfl, hkey⟩ := hfound hne
  obtain rfl := distinct i 2 _ hi (by decide) hkey hlast
  exact ⟨hread, by decide, hinside, sorted, distinct, he, hlinear distinct⟩

end ZMachine.Dictionary
