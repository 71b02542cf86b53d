import ZMachine.Object

/-!
# Links and child lists

The links of the objects, apart from the memory that holds them, and the child lists they spell:
the children of `p` are `child p`, its sibling, that one's sibling, and so on until 0.

    Segment k a l b       the objects `l` follow one another by siblings, from `a` to before `b`
    Spells n k f          the links `k` of the objects 1 .. n spell the child lists `f`

Taking an object out of its list changes one link to it, in its parent or in the object before it;
giving it a new parent changes its own links and the child link of that parent.  Main statements:

    Spells n k f → Spells n (k.detach o pre) (f.remove o)       where f (parent o) = pre ++ o :: post
    Spells n k f → o in no list → Spells n (k.attach o d) (f.insert o d)
-/

namespace ZMachine

open ObjectTable (Link)

/-- The links of all objects. -/
abbrev Links := Link → UInt16 → UInt16

/-- The children of every object, the first child first. -/
abbrev Forest := UInt16 → List UInt16

/-- One of the objects 1 to `n`. -/
def IsObject (n o : UInt16) : Prop :=
  o ≠ 0 ∧ o ≤ n

namespace Forest

/-- Takes an object out of the list it is in; the others keep their order. -/
def remove (o : UInt16) (f : Forest) : Forest :=
  fun p => (f p).erase o

/-- Takes an object out of its list and makes it the first child of `d`. -/
def insert (o d : UInt16) (f : Forest) : Forest :=
  fun p => if p = d then o :: f.remove o p else f.remove o p

end Forest

namespace Links

/-- One link changed. -/
def set (k : Links) (l : Link) (o target : UInt16) : Links :=
  fun l' o' => if l' = l ∧ o' = o then target else k l' o'

/-- The objects of `list` follow one another by siblings, from `first` to before `stop`. -/
def Segment (k : Links) : (first : UInt16) → (list : List UInt16) → (stop : UInt16) → Prop
  | first, [], stop => first = stop
  | first, o :: rest, stop => first = o ∧ o ≠ 0 ∧ Segment k (k .sibling o) rest stop

instance decidableSegment (k : Links) :
    (first : UInt16) → (list : List UInt16) → (stop : UInt16) → Decidable (k.Segment first list stop)
  | first, [], stop => inferInstanceAs (Decidable (first = stop))
  | first, o :: rest, stop =>
    have := decidableSegment k (k .sibling o) rest stop
    inferInstanceAs (Decidable (first = o ∧ o ≠ 0 ∧ k.Segment (k .sibling o) rest stop))

/-- The links after `o` was passed over by what leads to it: its parent when it is the first child,
else the last of the children `before` it. -/
def bypass (k : Links) (o : UInt16) (before : List UInt16) : Links :=
  match before.getLast? with
  | none => k.set .child (k .parent o) (k .sibling o)
  | some c => k.set .sibling c (k .sibling o)

/-- The links after `o` was taken out of a list in which `before` are the children before it. -/
def detach (k : Links) (o : UInt16) (before : List UInt16) : Links :=
  ((k.bypass o before).set .parent o 0).set .sibling o 0

/-- The links after `o`, which is in no list, was made the first child of `d`. -/
def attach (k : Links) (o d : UInt16) : Links :=
  ((k.set .sibling o (k .child d)).set .parent o d).set .child d o

end Links

/-- The links of the objects 1 to `n` lead to such objects or to 0, and spell the child lists `f`:
each list is finite, without repetition, and holds exactly the objects with that parent. -/
structure Spells (n : UInt16) (k : Links) (f : Forest) : Prop where
  bounded : ∀ l o, IsObject n o → k l o ≤ n
  chain : ∀ p, IsObject n p → k.Segment (k .child p) (f p) 0
  nodup : ∀ p, IsObject n p → (f p).Nodup
  mem_iff : ∀ p x, IsObject n p → IsObject n x → (x ∈ f p ↔ k .parent x = p)

/-! ## Segments -/

namespace Links

@[simp] theorem set_self (k : Links) (l : Link) (o target : UInt16) :
    k.set l o target l o = target := by
  simp [set]

theorem set_of_ne (k : Links) {l l' : Link} {o o' : UInt16} (target : UInt16)
    (h : l' ≠ l ∨ o' ≠ o) : k.set l o target l' o' = k l' o' := by
  unfold set
  rw [if_neg]
  rintro ⟨h1, h2⟩
  rcases h with h | h
  · exact h h1
  · exact h h2

theorem set_of_link_ne (k : Links) {l l' : Link} (o o' target : UInt16) (h : l' ≠ l) :
    k.set l o target l' o' = k l' o' :=
  k.set_of_ne target (.inl h)

theorem set_of_object_ne (k : Links) (l l' : Link) {o o' : UInt16} (target : UInt16)
    (h : o' ≠ o) : k.set l o target l' o' = k l' o' :=
  k.set_of_ne target (.inr h)

/-- A segment depends on the siblings of its objects alone. -/
theorem Segment.congr {k k' : Links} {first stop : UInt16} {list : List UInt16}
    (h : k.Segment first list stop) (hk : ∀ x ∈ list, k' .sibling x = k .sibling x) :
    k'.Segment first list stop := by
  induction list generalizing first with
  | nil => exact h
  | cons o rest ih =>
    obtain ⟨ho, h0, hr⟩ := h
    refine ⟨ho, h0, ?_⟩
    rw [hk o List.mem_cons_self]
    exact ih hr (fun x hx => hk x (List.mem_cons_of_mem o hx))

theorem segment_append (k : Links) (first stop : UInt16) (l₁ l₂ : List UInt16) :
    k.Segment first (l₁ ++ l₂) stop ↔
      ∃ middle, k.Segment first l₁ middle ∧ k.Segment middle l₂ stop := by
  induction l₁ generalizing first with
  | nil => simp [Segment]
  | cons o rest ih =>
    simp only [List.cons_append, Segment, ih]
    constructor
    · rintro ⟨ho, h0, middle, h1, h2⟩
      exact ⟨middle, ⟨ho, h0, h1⟩, h2⟩
    · rintro ⟨middle, ⟨ho, h0, h1⟩, h2⟩
      exact ⟨ho, h0, middle, h1, h2⟩

/-- A segment around one of its objects. -/
theorem segment_split (k : Links) (first stop o : UInt16) (pre post : List UInt16) :
    k.Segment first (pre ++ o :: post) stop ↔
      k.Segment first pre o ∧ o ≠ 0 ∧ k.Segment (k .sibling o) post stop := by
  rw [segment_append]
  constructor
  · rintro ⟨middle, h1, rfl, h0, h2⟩
    exact ⟨h1, h0, h2⟩
  · rintro ⟨h1, h0, h2⟩
    exact ⟨o, h1, rfl, h0, h2⟩

theorem Segment.ne_zero {k : Links} {first stop : UInt16} {list : List UInt16}
    (h : k.Segment first list stop) : ∀ x ∈ list, x ≠ 0 := by
  induction list generalizing first with
  | nil => simp
  | cons o rest ih =>
    obtain ⟨-, h0, hr⟩ := h
    intro x hx
    rcases List.mem_cons.1 hx with rfl | hx
    · exact h0
    · exact ih hr x hx

theorem Segment.le {k : Links} {n first stop : UInt16} {list : List UInt16}
    (h : k.Segment first list stop) (hf : first ≤ n)
    (hk : ∀ o, IsObject n o → k .sibling o ≤ n) : ∀ x ∈ list, x ≤ n := by
  induction list generalizing first with
  | nil => simp
  | cons o rest ih =>
    obtain ⟨rfl, h0, hr⟩ := h
    intro x hx
    rcases List.mem_cons.1 hx with rfl | hx
    · exact hf
    · exact ih hr (hk first ⟨h0, hf⟩) x hx

/-- The first object of a segment is not one further back. -/
theorem Segment.first_ne {k : Links} {first stop c o : UInt16} {front post : List UInt16}
    (h : k.Segment first (front ++ c :: o :: post) stop)
    (hn : (front ++ c :: o :: post).Nodup) : first ≠ o := by
  rintro rfl
  cases front with
  | nil =>
    obtain ⟨rfl, -, -⟩ := h
    simp at hn
  | cons x front =>
    obtain ⟨rfl, -, -⟩ := h
    simp at hn

end Links

/-! ## Child lists -/

namespace Spells

variable {n : UInt16} {k : Links} {f : Forest}

theorem isObject_of_mem (h : Spells n k f) {p x : UInt16} (hp : IsObject n p) (hx : x ∈ f p) :
    IsObject n x :=
  ⟨(h.chain p hp).ne_zero x hx,
    (h.chain p hp).le (h.bounded .child p hp) (h.bounded .sibling) x hx⟩

/-- An object is in the list of its parent and in no other one. -/
theorem parent_of_mem (h : Spells n k f) {p x : UInt16} (hp : IsObject n p) (hx : x ∈ f p) :
    k .parent x = p :=
  (h.mem_iff p x hp (h.isObject_of_mem hp hx)).1 hx

theorem not_mem_of_parent_ne (h : Spells n k f) {p x : UInt16} (hp : IsObject n p)
    (hx : k .parent x ≠ p) : x ∉ f p :=
  fun hm => hx (h.parent_of_mem hp hm)

/-- An object without a parent is in no list, so taking it out changes none. -/
theorem remove_of_orphan (h : Spells n k f) {o : UInt16} (ho : k .parent o = 0) :
    Spells n k (f.remove o) := by
  have hf : ∀ p, IsObject n p → f.remove o p = f p := fun p hp =>
    List.erase_of_not_mem (h.not_mem_of_parent_ne hp (by rw [ho]; exact hp.1.symm))
  refine ⟨h.bounded, fun p hp => ?_, fun p hp => ?_, fun p x hp hx => ?_⟩
  · rw [hf p hp]
    exact h.chain p hp
  · rw [hf p hp]
    exact h.nodup p hp
  · rw [hf p hp]
    exact h.mem_iff p x hp hx

end Spells

/-! ## Taking an object out -/

namespace Links

theorem detach_parent (k : Links) (o x : UInt16) (pre : List UInt16) :
    k.detach o pre .parent x = if x = o then 0 else k .parent x := by
  unfold detach bypass
  rw [set_of_link_ne _ _ _ _ (by decide)]
  by_cases hx : x = o
  · subst hx
    simp
  · rw [set_of_object_ne _ _ _ _ hx, if_neg hx]
    cases pre.getLast? <;> exact set_of_link_ne _ _ _ _ (by decide)

theorem detach_child (k : Links) (o q : UInt16) (pre : List UInt16) :
    k.detach o pre .child q =
      if pre = [] ∧ q = k .parent o then k .sibling o else k .child q := by
  unfold detach bypass
  rw [set_of_link_ne _ _ _ _ (by decide), set_of_link_ne _ _ _ _ (by decide)]
  cases hl : pre.getLast? with
  | none =>
    have hp : pre = [] := List.getLast?_eq_none_iff.1 hl
    simp [set, hp]
  | some c =>
    have hp : pre ≠ [] := by
      rintro rfl
      simp at hl
    show k.set .sibling c (k .sibling o) .child q = _
    rw [set_of_link_ne _ _ _ _ (by decide), if_neg (fun h => hp h.1)]

theorem detach_sibling (k : Links) {o x : UInt16} (pre : List UInt16) (hx : x ≠ o) :
    k.detach o pre .sibling x =
      if pre.getLast? = some x then k .sibling o else k .sibling x := by
  unfold detach bypass
  rw [set_of_object_ne _ _ _ _ hx, set_of_link_ne _ _ _ _ (by decide)]
  cases hl : pre.getLast? with
  | none => simp [set]
  | some c =>
    by_cases hc : x = c
    · subst hc
      simp
    · show k.set .sibling c (k .sibling o) .sibling x = _
      rw [set_of_object_ne _ _ _ _ hc, if_neg (fun h => hc (Option.some.inj h).symm)]

theorem detach_sibling_self (k : Links) (o : UInt16) (pre : List UInt16) :
    k.detach o pre .sibling o = 0 :=
  set_self _ _ _ _

end Links

namespace Spells

variable {n : UInt16} {k : Links} {f : Forest}

/-- The list that `o` was in, without `o`: whatever led to `o` now leads past it. -/
theorem segment_detach (h : Spells n k f) {o : UInt16} {pre post : List UInt16}
    (hp : IsObject n (k .parent o)) (hf : f (k .parent o) = pre ++ o :: post) :
    (k.detach o pre).Segment (k.detach o pre .child (k .parent o)) (pre ++ post) 0 := by
  have hchain := h.chain _ hp
  have hnodup := h.nodup _ hp
  rw [hf, Links.segment_split] at hchain
  rw [hf] at hnodup
  obtain ⟨hpre, -, hpost⟩ := hchain
  obtain ⟨hnpre, hnpost, hdisj⟩ := List.nodup_append.1 hnodup
  have hopost : o ∉ post := (List.nodup_cons.1 hnpost).1
  have hopre : o ∉ pre := fun hm => hdisj o hm o List.mem_cons_self rfl
  -- the objects behind `o` keep their siblings
  have hpost' : (k.detach o pre).Segment (k .sibling o) post 0 := by
    refine hpost.congr (fun x hx => ?_)
    have hxo : x ≠ o := fun e => hopost (e ▸ hx)
    have hxl : pre.getLast? ≠ some x := fun e =>
      hdisj x (List.mem_of_getLast? e) x (List.mem_cons_of_mem o hx) rfl
    rw [k.detach_sibling pre hxo, if_neg hxl]
  rcases List.eq_nil_or_concat pre with rfl | ⟨front, c, rfl⟩
  · rw [Links.detach_child, if_pos ⟨rfl, rfl⟩]
    exact hpost'
  · rw [List.concat_eq_append] at *
    rw [Links.detach_child, if_neg (by simp), List.append_assoc, List.singleton_append,
      Links.segment_split]
    obtain ⟨middle, hfront, rfl, hc0, -⟩ := (k.segment_append _ _ _ _).1 hpre
    have hco : middle ≠ o := fun e => hopre (by simp [e])
    refine ⟨hfront.congr (fun x hx => ?_), hc0, ?_⟩
    · have hxo : x ≠ o := fun e => hopre (by simp [← e, hx])
      have hxc : middle ≠ x := by
        intro e
        exact (List.nodup_append.1 hnpre).2.2 x hx x (by simp [e]) rfl
      rw [k.detach_sibling _ hxo, if_neg (by simp [hxc])]
    · rw [k.detach_sibling _ hco, if_pos (by simp)]
      exact hpost'

/-- Taking an object out of the list of its parent. -/
theorem detach (h : Spells n k f) {o : UInt16} {pre post : List UInt16}
    (hp : IsObject n (k .parent o)) (hf : f (k .parent o) = pre ++ o :: post) :
    Spells n (k.detach o pre) (f.remove o) := by
  have ho : IsObject n o := h.isObject_of_mem hp (by simp [hf])
  have hopre : o ∉ pre := by
    have hnodup := h.nodup _ hp
    rw [hf] at hnodup
    exact fun hm => (List.nodup_append.1 hnodup).2.2 o hm o List.mem_cons_self rfl
  have hparent : f.remove o (k .parent o) = pre ++ post := by
    show (f (k .parent o)).erase o = _
    rw [hf, List.erase_append_right _ hopre, List.erase_cons_head]
  have hother : ∀ q, IsObject n q → q ≠ k .parent o → f.remove o q = f q := fun q hq hne =>
    List.erase_of_not_mem (h.not_mem_of_parent_ne hq hne.symm)
  refine ⟨fun l x hx => ?_, fun q hq => ?_, fun q hq => ?_, fun q x hq hx => ?_⟩
  · have hb := h.bounded l x hx
    have hs := h.bounded .sibling o ho
    cases l with
    | parent =>
      rw [Links.detach_parent]
      split
      · exact UInt16.zero_le
      · exact hb
    | child =>
      rw [Links.detach_child]
      split
      · exact hs
      · exact hb
    | sibling =>
      by_cases hxo : x = o
      · subst hxo
        rw [Links.detach_sibling_self]
        exact UInt16.zero_le
      · rw [k.detach_sibling _ hxo]
        split
        · exact hs
        · exact hb
  · by_cases hqp : q = k .parent o
    · subst hqp
      rw [hparent]
      exact h.segment_detach hp hf
    · rw [hother q hq hqp, Links.detach_child, if_neg (fun e => hqp e.2)]
      refine (h.chain q hq).congr (fun x hx => ?_)
      have hxq := h.parent_of_mem hq hx
      have hxo : x ≠ o := by
        rintro rfl
        exact hqp hxq.symm
      have hxl : pre.getLast? ≠ some x := by
        intro e
        have hm : x ∈ f (k .parent o) := by
          rw [hf]
          exact List.mem_append_left _ (List.mem_of_getLast? e)
        exact hqp (hxq.symm.trans (h.parent_of_mem hp hm))
      rw [k.detach_sibling _ hxo, if_neg hxl]
  · exact (h.nodup q hq).erase o
  · rw [Links.detach_parent]
    by_cases hxo : x = o
    · subst hxo
      rw [if_pos rfl]
      constructor
      · intro hm
        exact absurd hm ((h.nodup q hq).not_mem_erase)
      · intro e
        exact absurd e.symm hq.1
    · rw [if_neg hxo]
      show x ∈ (f q).erase o ↔ _
      rw [List.mem_erase_of_ne hxo]
      exact h.mem_iff q x hq hx

end Spells

/-! ## Giving an object a parent -/

namespace Links

theorem attach_parent (k : Links) (o d x : UInt16) :
    k.attach o d .parent x = if x = o then d else k .parent x := by
  unfold attach
  rw [set_of_link_ne _ _ _ _ (by decide)]
  by_cases hx : x = o
  · subst hx
    simp
  · rw [set_of_object_ne _ _ _ _ hx, if_neg hx, set_of_link_ne _ _ _ _ (by decide)]

theorem attach_child (k : Links) (o d q : UInt16) :
    k.attach o d .child q = if q = d then o else k .child q := by
  unfold attach
  by_cases hq : q = d
  · subst hq
    simp
  · rw [set_of_object_ne _ _ _ _ hq, if_neg hq, set_of_link_ne _ _ _ _ (by decide),
      set_of_link_ne _ _ _ _ (by decide)]

theorem attach_sibling (k : Links) (o d x : UInt16) :
    k.attach o d .sibling x = if x = o then k .child d else k .sibling x := by
  unfold attach
  rw [set_of_link_ne _ _ _ _ (by decide), set_of_link_ne _ _ _ _ (by decide)]
  by_cases hx : x = o
  · subst hx
    simp
  · rw [set_of_object_ne _ _ _ _ hx, if_neg hx]

end Links

namespace Spells

variable {n : UInt16} {k : Links} {f : Forest}

/-- An object without a parent becomes the first child of `d`, which may be the object itself. -/
theorem attach (h : Spells n k f) {o d : UInt16} (ho : IsObject n o) (hd : IsObject n d)
    (horphan : k .parent o = 0) :
    Spells n (k.attach o d) (fun p => if p = d then o :: f p else f p) := by
  have hout : ∀ q, IsObject n q → o ∉ f q := fun q hq =>
    h.not_mem_of_parent_ne hq (by rw [horphan]; exact hq.1.symm)
  -- no list goes through `o`, so all lists keep their siblings
  have hkeep : ∀ q, IsObject n q → (k.attach o d).Segment (k .child q) (f q) 0 := by
    intro q hq
    refine (h.chain q hq).congr (fun x hx => ?_)
    rw [Links.attach_sibling, if_neg]
    rintro rfl
    exact hout q hq hx
  refine ⟨fun l x hx => ?_, fun q hq => ?_, fun q hq => ?_, fun q x hq hx => ?_⟩
  · have hb := h.bounded l x hx
    cases l with
    | parent =>
      rw [Links.attach_parent]
      split
      · exact hd.2
      · exact hb
    | child =>
      rw [Links.attach_child]
      split
      · exact ho.2
      · exact hb
    | sibling =>
      rw [Links.attach_sibling]
      split
      · exact h.bounded .child d hd
      · exact hb
  · rw [Links.attach_child]
    by_cases hqd : q = d
    · subst hqd
      rw [if_pos rfl, if_pos rfl]
      refine ⟨rfl, ho.1, ?_⟩
      rw [Links.attach_sibling, if_pos rfl]
      exact hkeep q hq
    · rw [if_neg hqd, if_neg hqd]
      exact hkeep q hq
  · split
    · exact List.nodup_cons.2 ⟨hout q hq, h.nodup q hq⟩
    · exact h.nodup q hq
  · rw [Links.attach_parent]
    have hm := h.mem_iff q x hq hx
    by_cases hxo : x = o
    · subst hxo
      rw [if_pos rfl]
      by_cases hqd : q = d
      · subst hqd
        simp
      · rw [if_neg hqd]
        exact ⟨fun hmem => absurd hmem (hout q hq), fun e => absurd e.symm hqd⟩
    · rw [if_neg hxo, ← hm]
      by_cases hqd : q = d
      · rw [if_pos hqd, List.mem_cons]
        exact ⟨fun hmem => hmem.resolve_left hxo, Or.inr⟩
      · rw [if_neg hqd]

end Spells
end ZMachine
