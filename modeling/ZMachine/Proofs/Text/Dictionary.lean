import ZMachine.Text.Dictionary
import ZMachine.Proofs.Action
import ZMachine.Proofs.Memory

/-!
# Finding a word in a dictionary

A dictionary is searched by halving where its entries are sorted, and from its first entry on where
they are not.  Either way the answer is about the keys of the entries alone:

    lookup d m key = .ok (d.entry i)   →   entry i has the key
    lookup d m key = .ok 0             →   no entry has it

The opening of a dictionary takes four bytes at least, so that no entry is at address 0.
-/

namespace ZMachine

namespace Dictionary

/-- Whether an entry has a key. -/
def HasKey (d : Dictionary) (m : Memory) (i : Nat) (key : List UInt8) : Prop :=
  m.readBytes (d.entry i) 6 = .ok key

/-- Whether the keys of the entries never go down. -/
def Sorted (d : Dictionary) (m : Memory) : Prop :=
  ∀ i j key key', i < j → j < d.count.natAbs → d.HasKey m i key → d.HasKey m j key' →
    (compare key key').isLE

/-- Whether an address is that of an entry with the key among those from `low` to before `high`, or
is 0 where there is none. -/
inductive Finds (d : Dictionary) (m : Memory) (key : List UInt8) (low high : Nat) : Nat → Prop
  | listed {i : Nat} (hlow : low ≤ i) (hhigh : i < high) (hkey : d.HasKey m i key) :
      Finds d m key low high (d.entry i)
  | unlisted (habsent : ∀ i, low ≤ i → i < high → ¬ d.HasKey m i key) : Finds d m key low high 0

section
variable {d : Dictionary} {m : Memory} {key : List UInt8}

theorem HasKey.eq {i : Nat} {key' : List UInt8} (h : d.HasKey m i key) (h' : d.HasKey m i key') :
    key = key' :=
  Except.ok.inj (h.symm.trans h')

/-- What is found in a part of the entries is found in all, if none of the others has the key. -/
theorem Finds.widen {low high low' high' e : Nat} (h : d.Finds m key low high e) (hl : low' ≤ low)
    (hh : high ≤ high')
    (hothers : ∀ i, low' ≤ i → i < high' → ¬ (low ≤ i ∧ i < high) → ¬ d.HasKey m i key) :
    d.Finds m key low' high' e := by
  cases h with
  | listed hlow hhigh hkey =>
    exact .listed (Nat.le_trans hl hlow) (Nat.lt_of_lt_of_le hhigh hh) hkey
  | unlisted habsent =>
    refine .unlisted fun i h1 h2 => ?_
    by_cases hin : low ≤ i ∧ i < high
    · exact habsent i hin.1 hin.2
    · exact hothers i h1 h2 hin

/-! ## The two searches -/

theorem searchLinear_finds {count i e : Nat} (h : d.searchLinear m key count i = .ok e) :
    d.Finds m key i (i + count) e := by
  induction count generalizing i with
  | zero =>
    obtain rfl : 0 = e := Except.ok.inj h
    exact .unlisted fun j h1 h2 => by omega
  | succ count ih =>
    unfold searchLinear at h
    obtain ⟨k, hk, h⟩ := except_bind_eq_ok h
    by_cases heq : k = key
    · rw [if_pos heq] at h
      obtain rfl : d.entry i = e := Except.ok.inj h
      exact .listed (Nat.le_refl i) (by omega) (heq ▸ hk)
    · rw [if_neg heq] at h
      refine (ih h).widen (Nat.le_succ i) (by omega) fun j h1 h2 hout hj => ?_
      obtain rfl : j = i := by omega
      exact heq (HasKey.eq hk hj)

/-- Where the key of an entry is below the one that is looked for, so are those before it. -/
theorem Sorted.not_hasKey_of_lt (hsorted : d.Sorted m) {middle i : Nat} {k : List UInt8}
    (hmiddle : middle < d.count.natAbs) (hk : d.HasKey m middle k) (hlt : compare k key = .lt)
    (hi : i ≤ middle) : ¬ d.HasKey m i key := by
  intro hkey
  rcases Nat.lt_or_eq_of_le hi with hbefore | rfl
  · have hle := hsorted i middle key k hbefore hmiddle hkey hk
    rw [Std.OrientedOrd.eq_swap, hlt] at hle
    exact absurd hle (by decide)
  · rw [hk.eq hkey, Std.ReflOrd.compare_self] at hlt
    exact absurd hlt (by decide)

/-- Where the key of an entry is above the one that is looked for, so are those after it. -/
theorem Sorted.not_hasKey_of_gt (hsorted : d.Sorted m) {middle i : Nat} {k : List UInt8}
    (hi' : i < d.count.natAbs) (hk : d.HasKey m middle k) (hgt : compare k key = .gt)
    (hi : middle ≤ i) : ¬ d.HasKey m i key := by
  intro hkey
  rcases Nat.lt_or_eq_of_le hi with hbehind | rfl
  · have hle := hsorted middle i k key hbehind hi' hk hkey
    rw [hgt] at hle
    exact absurd hle (by decide)
  · rw [hk.eq hkey, Std.ReflOrd.compare_self] at hgt
    exact absurd hgt (by decide)

theorem searchSorted_finds (hsorted : d.Sorted m) {fuel low high e : Nat}
    (hhigh : high ≤ d.count.natAbs) (hfuel : high - low < fuel)
    (h : d.searchSorted m key fuel low high = .ok e) : d.Finds m key low high e := by
  induction fuel generalizing low high with
  | zero => omega
  | succ fuel ih =>
    unfold searchSorted at h
    by_cases hlt : low < high
    case neg =>
      rw [if_neg hlt] at h
      obtain rfl : 0 = e := Except.ok.inj h
      exact .unlisted fun i h1 h2 => by omega
    case pos =>
      rw [if_pos hlt] at h
      obtain ⟨k, hk, h⟩ := except_bind_eq_ok h
      have hmiddle : (low + high) / 2 < high := by omega
      cases hcmp : compare k key with
      | eq =>
        rw [hcmp] at h
        obtain rfl : d.entry ((low + high) / 2) = e := Except.ok.inj h
        exact .listed (by omega) hmiddle (Std.LawfulEqOrd.eq_of_compare hcmp ▸ hk)
      | lt =>
        rw [hcmp] at h
        refine (ih hhigh (by omega) h).widen (by omega) (Nat.le_refl high) fun i h1 h2 hout => ?_
        exact hsorted.not_hasKey_of_lt (by omega) hk hcmp (by omega)
      | gt =>
        rw [hcmp] at h
        refine (ih (by omega) (by omega) h).widen (Nat.le_refl low) (by omega)
          fun i h1 h2 hout => ?_
        exact hsorted.not_hasKey_of_gt (by omega) hk hcmp (by omega)

/-- **Looking up.**  The address is that of an entry with the key, or 0 and there is none. -/
theorem lookup_finds (hsorted : 0 < d.count → d.Sorted m) {e : Nat}
    (h : d.lookup m key = .ok e) : d.Finds m key 0 d.count.natAbs e := by
  unfold lookup at h
  by_cases hcount : 0 < d.count
  · rw [if_pos hcount] at h
    exact searchSorted_finds (hsorted hcount) (Nat.le_refl _) (Nat.lt_succ_self _) h
  · rw [if_neg hcount] at h
    have := searchLinear_finds h
    rwa [Nat.zero_add] at this

end

/-! ## What an answer depends on -/

section
variable {d : Dictionary} {m m' : Memory}

/-- Memories with the same keys give the same answer. -/
theorem lookup_congr (key : List UInt8)
    (hkeys : ∀ i < d.count.natAbs, m'.readBytes (d.entry i) 6 = m.readBytes (d.entry i) 6) :
    d.lookup m' key = d.lookup m key := by
  have hhalving (fuel low high : Nat) (hhigh : high ≤ d.count.natAbs) :
      d.searchSorted m' key fuel low high = d.searchSorted m key fuel low high := by
    induction fuel generalizing low high with
    | zero => rfl
    | succ fuel ih =>
      unfold searchSorted
      by_cases hlt : low < high
      · rw [if_pos hlt, if_pos hlt]
        dsimp only
        rw [hkeys _ (by omega), ih _ _ hhigh, ih _ _ (by omega)]
      · rw [if_neg hlt, if_neg hlt]
  have hlinear (count i : Nat) (hi : i + count ≤ d.count.natAbs) :
      d.searchLinear m' key count i = d.searchLinear m key count i := by
    induction count generalizing i with
    | zero => rfl
    | succ count ih =>
      unfold searchLinear
      rw [hkeys _ (by omega), ih _ (by omega)]
  unfold lookup
  rw [hhalving _ _ _ (Nat.le_refl _), hlinear _ _ (by omega)]

/-- The opening of a dictionary comes before its entries. -/
theorem four_le_entry {address : Nat} (h : Dictionary.read m address = .ok d) (i : Nat) :
    4 ≤ d.entry i := by
  unfold Dictionary.read at h
  obtain ⟨n, -, h⟩ := except_bind_eq_ok h
  obtain ⟨separators, -, h⟩ := except_bind_eq_ok h
  obtain ⟨entryLength, -, h⟩ := except_bind_eq_ok h
  obtain ⟨count, -, h⟩ := except_bind_eq_ok h
  obtain rfl := Except.ok.inj h
  unfold entry
  dsimp only
  omega

end

end Dictionary
end ZMachine
