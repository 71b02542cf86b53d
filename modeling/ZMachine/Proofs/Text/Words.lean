import ZMachine.Text.Dictionary

/-!
# The words of a line

A byte of a line is a space, a separator or a byte of a longer word.  The words are the longest runs
of bytes of the third kind, and each separator by itself; a space is never a separator.  Splitting a
line finds them all, in their order:

    t ∈ split separators text   ↔   IsWord separators text t

Every byte but a space belongs to exactly one word.
-/

namespace ZMachine.Token

/-- Whether a byte cannot stand in a word of several bytes. -/
def Breaks (separators : List UInt8) (c : UInt8) : Prop :=
  c = 32 ∨ c ∈ separators

/-- Whether a token is a word of a line. -/
inductive IsWord (separators text : List UInt8) : Token → Prop
  /-- A run of bytes with nothing on either side that could belong to it. -/
  | run {start length : Nat} (hpos : 0 < length)
      (hinside : ∀ i, start ≤ i → i < start + length →
        ∃ c, text[i]? = some c ∧ ¬ Breaks separators c)
      (hbefore : ∀ i c, i + 1 = start → text[i]? = some c → Breaks separators c)
      (hafter : ∀ c, text[start + length]? = some c → Breaks separators c) :
      IsWord separators text ⟨start, length⟩
  | separator {i : Nat} {c : UInt8} (hc : text[i]? = some c) (hspace : c ≠ 32)
      (hmem : c ∈ separators) : IsWord separators text ⟨i, 1⟩

/-- Whether a position of a line is in a token. -/
def Covers (t : Token) (i : Nat) : Prop :=
  t.start ≤ i ∧ i < t.start + t.length

section
variable {separators text : List UInt8}

theorem IsWord.length_pos {t : Token} (h : IsWord separators text t) : 0 < t.length := by
  cases h with
  | run hpos => exact hpos
  | separator => exact Nat.one_pos

/-- The bytes of a word are in the line, and none of them is a space. -/
theorem IsWord.byte {t : Token} (h : IsWord separators text t) {i : Nat} (hi : t.Covers i) :
    ∃ c, text[i]? = some c ∧ c ≠ 32 := by
  cases h with
  | run hpos hinside =>
    obtain ⟨c, hc, hbreaks⟩ := hinside i hi.1 hi.2
    exact ⟨c, hc, fun hspace => hbreaks (.inl hspace)⟩
  | @separator j c hc hspace hmem =>
    obtain ⟨h1, h2⟩ := hi
    obtain rfl : i = j := by
      dsimp only at h1 h2
      omega
    exact ⟨c, hc, hspace⟩

theorem IsWord.stop_le {t : Token} (h : IsWord separators text t) :
    t.start + t.length ≤ text.length := by
  have hpos := h.length_pos
  obtain ⟨c, hc, -⟩ := h.byte (i := t.start + t.length - 1) ⟨by omega, by omega⟩
  have := (List.getElem?_eq_some_iff.1 hc).1
  omega

/-- Two words with a byte in common are one. -/
theorem IsWord.eq_of_covers {s t : Token} (hs : IsWord separators text s)
    (ht : IsWord separators text t) {i : Nat} (hsi : s.Covers i) (hti : t.Covers i) : s = t := by
  have hkind {c c' : UInt8} (hc : text[i]? = some c) (hc' : text[i]? = some c')
      (hbreaks : ¬ Breaks separators c) (hmem : c' ∈ separators) : False := by
    obtain rfl : c = c' := Option.some.inj (hc.symm.trans hc')
    exact hbreaks (.inr hmem)
  cases hs with
  | @run start length hpos hinside hbefore hafter =>
    obtain ⟨c, hc, hbreaks⟩ := hinside i hsi.1 hsi.2
    cases ht with
    | @run start' length' hpos' hinside' hbefore' hafter' =>
      -- neither run can begin or end within the other one
      obtain ⟨hs1, hs2⟩ := hsi
      obtain ⟨ht1, ht2⟩ := hti
      dsimp only at hs1 hs2 ht1 ht2
      have hstart : start = start' := by
        rcases Nat.lt_trichotomy start start' with hlt | heq | hgt
        · obtain ⟨b, hb, hin⟩ := hinside (start' - 1) (by omega) (by omega)
          exact absurd (hbefore' (start' - 1) b (by omega) hb) hin
        · exact heq
        · obtain ⟨b, hb, hin⟩ := hinside' (start - 1) (by omega) (by omega)
          exact absurd (hbefore (start - 1) b (by omega) hb) hin
      have hlength : length = length' := by
        rcases Nat.lt_trichotomy length length' with hlt | heq | hgt
        · obtain ⟨b, hb, hin⟩ := hinside' (start + length) (by omega) (by omega)
          exact absurd (hafter b hb) hin
        · exact heq
        · obtain ⟨b, hb, hin⟩ := hinside (start' + length') (by omega) (by omega)
          exact absurd (hafter' b hb) hin
      rw [hstart, hlength]
    | @separator j c' hc' hspace hmem =>
      obtain rfl : i = j := by
        obtain ⟨h1, h2⟩ := hti
        dsimp only at h1 h2
        omega
      exact (hkind hc hc' hbreaks hmem).elim
  | @separator j c hc hspace hmem =>
    obtain rfl : i = j := by
      obtain ⟨h1, h2⟩ := hsi
      dsimp only at h1 h2
      omega
    cases ht with
    | run hpos' hinside' =>
      obtain ⟨c', hc', hbreaks⟩ := hinside' i hti.1 hti.2
      exact (hkind hc' hc hbreaks hmem).elim
    | @separator k c' hc' hspace' hmem' =>
      obtain rfl : i = k := by
        obtain ⟨h1, h2⟩ := hti
        dsimp only at h1 h2
        omega
      rfl

end

/-! ## Splitting -/

/-- What is known when a line was read up to position `i`: a word was begun at `start` and not yet
ended, or none was and the byte before, if there is one, ends words. -/
structure Begun (separators text : List UInt8) (i : Nat) (start : Option Nat) : Prop where
  open_inside : ∀ s, start = some s → s < i ∧ ∀ j, s ≤ j → j < i →
    ∃ c, text[j]? = some c ∧ ¬ Breaks separators c
  before : ∀ j c, j + 1 = start.getD i → text[j]? = some c → Breaks separators c

section
variable {separators text : List UInt8} {i : Nat} {start : Option Nat}

theorem begun_zero : Begun separators text 0 none where
  open_inside s hs := by cases hs
  before j c hj := by simp at hj

theorem Begun.start_le (h : Begun separators text i start) : start.getD i ≤ i := by
  cases start with
  | none => exact Nat.le_refl i
  | some s => exact Nat.le_of_lt (h.open_inside s rfl).1

/-- After a byte that ends words, no word is begun. -/
theorem Begun.break {c : UInt8} (hc : text[i]? = some c) (hbreaks : Breaks separators c) :
    Begun separators text (i + 1) none where
  open_inside s hs := by cases hs
  before j b hj hb := by
    obtain rfl : j = i := by simpa using hj
    obtain rfl : c = b := Option.some.inj (hc.symm.trans hb)
    exact hbreaks

/-- A byte of a longer word goes on with the word that was begun, or begins one. -/
theorem Begun.extend (h : Begun separators text i start) {c : UInt8} (hc : text[i]? = some c)
    (hbreaks : ¬ Breaks separators c) :
    Begun separators text (i + 1) (some (start.getD i)) where
  open_inside s hs := by
    obtain rfl : start.getD i = s := Option.some.inj hs
    have hle := h.start_le
    refine ⟨by omega, fun j h1 h2 => ?_⟩
    by_cases hj : j = i
    · exact ⟨c, by rw [hj, hc], hbreaks⟩
    · cases start with
      | none => exact absurd h1 (by simp; omega)
      | some s => exact (h.open_inside s rfl).2 j h1 (by omega)
  before j b hj hb := h.before j b hj hb

/-- Where the next byte cannot go on with it, the word that was begun is one. -/
theorem Begun.isWord_of_mem_close (h : Begun separators text i start)
    (hnext : ∀ c, text[i]? = some c → Breaks separators c) {t : Token} (ht : t ∈ close start i) :
    IsWord separators text t := by
  cases start with
  | none => exact absurd ht List.not_mem_nil
  | some s =>
    obtain rfl : t = ⟨s, i - s⟩ := by simpa [close] using ht
    obtain ⟨hlt, hinside⟩ := h.open_inside s rfl
    refine .run (by omega) (fun j h1 h2 => hinside j h1 (by omega)) ?_ ?_
    · exact fun j c hj hc => h.before j c (by simpa using hj) hc
    · rw [show s + (i - s) = i by omega]
      exact hnext

end

theorem start_of_mem_close {start : Option Nat} {i : Nat} {t : Token} (h : t ∈ close start i) :
    t.start = start.getD i ∧ t.start + t.length = max (start.getD i) i := by
  cases start with
  | none => exact absurd h List.not_mem_nil
  | some s =>
    obtain rfl : t = ⟨s, i - s⟩ := by simpa [close] using h
    exact ⟨rfl, by simp; omega⟩

section
variable {separators : List UInt8}

/-- What is found in the rest of a line are words of the line. -/
theorem isWord_of_mem_splitFrom {rest : List UInt8} {i : Nat} {start : Option Nat}
    {text : List UInt8} (hrest : text.drop i = rest) (h : Begun separators text i start) {t : Token}
    (ht : t ∈ splitFrom separators i start rest) : IsWord separators text t := by
  induction rest generalizing i start with
  | nil =>
    have hend : text[i]? = none := by
      rw [List.getElem?_eq_none_iff]
      exact List.drop_eq_nil_iff.1 hrest
    exact h.isWord_of_mem_close (fun c hc => by rw [hend] at hc; cases hc) ht
  | cons c rest ih =>
    have hc : text[i]? = some c := by
      rw [← List.head?_drop, hrest]
      rfl
    have htail : text.drop (i + 1) = rest := by
      rw [← List.tail_drop, hrest]
      rfl
    have hclose (hbreaks : Breaks separators c) {t : Token} (ht : t ∈ close start i) :
        IsWord separators text t := by
      refine h.isWord_of_mem_close (fun b hb => ?_) ht
      rwa [← Option.some.inj (hc.symm.trans hb)]
    unfold splitFrom at ht
    by_cases hspace : c = 32
    · rw [if_pos hspace, List.mem_append] at ht
      rcases ht with ht | ht
      · exact hclose (.inl hspace) ht
      · exact ih htail (.break hc (.inl hspace)) ht
    · rw [if_neg hspace] at ht
      by_cases hmem : c ∈ separators
      · rw [if_pos (by simpa using hmem), List.mem_append, List.mem_cons] at ht
        rcases ht with ht | rfl | ht
        · exact hclose (.inr hmem) ht
        · exact .separator hc hspace hmem
        · exact ih htail (.break hc (.inr hmem)) ht
      · rw [if_neg (by simpa using hmem)] at ht
        exact ih htail (h.extend hc (fun hb => hb.elim hspace hmem)) ht

/-- Each byte from the word that was begun on is found in a word, unless it is a space. -/
theorem exists_covers_splitFrom {rest : List UInt8} {i : Nat} {start : Option Nat}
    {text : List UInt8} (hrest : text.drop i = rest) (hstart : start.getD i ≤ i) {j : Nat} {b : UInt8}
    (hj : start.getD i ≤ j) (hb : text[j]? = some b) (hspace : b ≠ 32) :
    ∃ t ∈ splitFrom separators i start rest, t.Covers j := by
  have hclose {i : Nat} {start : Option Nat} (hj : start.getD i ≤ j) (hlt : j < i) :
      ∃ t ∈ close start i, t.Covers j := by
    cases start with
    | none => exact absurd hj (by simp; omega)
    | some s =>
      have hs : s ≤ j := hj
      exact ⟨⟨s, i - s⟩, by simp [close], hs, by simp; omega⟩
  induction rest generalizing i start with
  | nil =>
    have hend := List.drop_eq_nil_iff.1 hrest
    have hlt := (List.getElem?_eq_some_iff.1 hb).1
    exact hclose hj (by omega)
  | cons c rest ih =>
    have hc : text[i]? = some c := by
      rw [← List.head?_drop, hrest]
      rfl
    have htail : text.drop (i + 1) = rest := by
      rw [← List.tail_drop, hrest]
      rfl
    unfold splitFrom
    by_cases hblank : c = 32
    · rw [if_pos hblank]
      by_cases hlt : j < i
      · obtain ⟨t, ht, hcovers⟩ := hclose hj hlt
        exact ⟨t, List.mem_append_left _ ht, hcovers⟩
      · have hne : j ≠ i := by
          rintro rfl
          exact hspace ((Option.some.inj (hb.symm.trans hc)).trans hblank)
        have hnext : none.getD (i + 1) ≤ j := by simp; omega
        obtain ⟨t, ht, hcovers⟩ := ih htail (Nat.le_refl _) hnext
        exact ⟨t, List.mem_append_right _ ht, hcovers⟩
    · rw [if_neg hblank]
      by_cases hmem : separators.contains c
      · rw [if_pos hmem]
        by_cases hlt : j < i
        · obtain ⟨t, ht, hcovers⟩ := hclose hj hlt
          exact ⟨t, List.mem_append_left _ ht, hcovers⟩
        · refine Nat.eq_or_lt_of_le (Nat.le_of_not_lt hlt) |>.elim (fun heq => ?_) (fun hgt => ?_)
          · exact ⟨⟨i, 1⟩, by simp, by subst heq; exact ⟨Nat.le_refl _, Nat.lt_succ_self _⟩⟩
          · have hnext : none.getD (i + 1) ≤ j := by simp; omega
            obtain ⟨t, ht, hcovers⟩ := ih htail (Nat.le_refl _) hnext
            exact ⟨t, List.mem_append_right _ (List.mem_cons_of_mem _ ht), hcovers⟩
      · rw [if_neg hmem]
        exact ih htail (by simp; omega) hj

/-- What is found in the rest of a line comes in order and without overlapping, from the word that was
begun on. -/
theorem pairwise_splitFrom (rest : List UInt8) (i : Nat) (start : Option Nat)
    (hstart : start.getD i ≤ i) :
    (∀ t ∈ splitFrom separators i start rest, start.getD i ≤ t.start) ∧
      (splitFrom separators i start rest).Pairwise fun s t => s.start + s.length ≤ t.start := by
  have hclosed {i : Nat} {start : Option Nat} (hstart : start.getD i ≤ i) {words : List Token}
      (hwords : (∀ t ∈ words, i ≤ t.start) ∧
        words.Pairwise fun s t => s.start + s.length ≤ t.start) :
      (∀ t ∈ close start i ++ words, start.getD i ≤ t.start) ∧
        (close start i ++ words).Pairwise fun s t => s.start + s.length ≤ t.start := by
    constructor
    · intro t ht
      rcases List.mem_append.1 ht with ht | ht
      · exact Nat.le_of_eq (start_of_mem_close ht).1.symm
      · exact Nat.le_trans hstart (hwords.1 t ht)
    · refine List.pairwise_append.2 ⟨?_, hwords.2, fun s hs t ht => ?_⟩
      · cases start <;> simp [close]
      · have := hwords.1 t ht
        rw [(start_of_mem_close hs).2]
        omega
  induction rest generalizing i start with
  | nil =>
    have hnone : (∀ t ∈ ([] : List Token), i ≤ t.start) ∧
        ([] : List Token).Pairwise fun s t => s.start + s.length ≤ t.start := by simp
    have := hclosed hstart hnone
    rwa [List.append_nil] at this
  | cons c rest ih =>
    obtain ⟨hfrom, hpairwise⟩ := ih (i + 1) none (Nat.le_refl _)
    have hfrom' : ∀ t ∈ splitFrom separators (i + 1) none rest, i + 1 ≤ t.start := hfrom
    unfold splitFrom
    by_cases hblank : c = 32
    · rw [if_pos hblank]
      exact hclosed hstart ⟨fun t ht => Nat.le_of_succ_le (hfrom' t ht), hpairwise⟩
    · rw [if_neg hblank]
      by_cases hmem : separators.contains c
      · rw [if_pos hmem]
        refine hclosed hstart ⟨fun t ht => ?_, List.pairwise_cons.2 ⟨hfrom', hpairwise⟩⟩
        rcases List.mem_cons.1 ht with rfl | ht
        · exact Nat.le_refl i
        · exact Nat.le_of_succ_le (hfrom' t ht)
      · rw [if_neg hmem]
        exact ih (i + 1) (some (start.getD i)) (by simp; omega)

end

/-! ## The words of a line -/

section
variable (separators text : List UInt8)

/-- Every byte but a space is in a word that was found. -/
theorem exists_covers_split {i : Nat} {c : UInt8} (hc : text[i]? = some c) (hspace : c ≠ 32) :
    ∃ t ∈ split separators text, t.Covers i := by
  have hstart : none.getD 0 ≤ 0 := Nat.le_refl 0
  exact exists_covers_splitFrom List.drop_zero hstart (Nat.zero_le i) hc hspace

/-- The words of a line are found, and nothing else. -/
theorem mem_split_iff (t : Token) : t ∈ split separators text ↔ IsWord separators text t := by
  constructor
  · exact isWord_of_mem_splitFrom List.drop_zero begun_zero
  · intro ht
    have hpos := ht.length_pos
    have hself : t.Covers t.start := ⟨Nat.le_refl _, by omega⟩
    obtain ⟨c, hc, hspace⟩ := ht.byte hself
    obtain ⟨s, hs, hcovers⟩ := exists_covers_split separators text hc hspace
    have hword := isWord_of_mem_splitFrom List.drop_zero begun_zero hs
    rwa [← hword.eq_of_covers ht hcovers hself]

/-- The words are found in their order, and no two overlap. -/
theorem pairwise_split :
    (split separators text).Pairwise fun s t => s.start + s.length ≤ t.start :=
  (pairwise_splitFrom text 0 none (Nat.le_refl 0)).2

end

example : split [44] [103, 111, 32, 110, 111, 44, 120] = [⟨0, 2⟩, ⟨3, 2⟩, ⟨5, 1⟩, ⟨6, 1⟩] := by decide

end ZMachine.Token
