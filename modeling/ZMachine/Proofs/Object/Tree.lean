import ZMachine.Property
import ZMachine.Proofs.Action
import ZMachine.Proofs.Memory
import ZMachine.Proofs.Object.Forest

/-!
# The object tree in memory

A memory holds a forest for the objects 1 to `n` when their entries lie in it and their links spell
its child lists.  Taking objects out and putting them in acts on the child lists and on nothing
else, for any objects and in any order, also where an object is put into itself or into its own
subtree:

    Holds t n m f → moveAll t moves m = .ok () m' ∧ Holds t n m' (the moves done to f)

`OnlyLinks` says that no byte outside the three links of each entry is changed; attributes and
property addresses are among those.
-/

namespace ZMachine

open ObjectTable (Link entrySize)

/-! ## Moves -/

/-- A change of the tree. -/
inductive Move where
  | remove (o : UInt16)
  | insert (o d : UInt16)
deriving DecidableEq, Repr

namespace Move

/-- Whether all objects that a move names are among 0 to `n`. -/
def Within (n : UInt16) : Move → Prop
  | remove o => o ≤ n
  | insert o d => o ≤ n ∧ d ≤ n

/-- Whether a move names object 0. -/
def isVoid : Move → Bool
  | remove o => o == 0
  | insert o d => o == 0 || d == 0

/-- Whether a move has nothing to do with the children of `p`: the object it moves is not one of
them and does not become one. -/
def Spares (p : UInt16) (children : List UInt16) : Move → Prop
  | remove o => o ∉ children
  | insert o d => o ∉ children ∧ d ≠ p

end Move

namespace Forest

/-- The child lists after a move. -/
def move (f : Forest) (v : Move) : Forest :=
  if v.isVoid then f
  else match v with
    | .remove o => f.remove o
    | .insert o d => f.insert o d

theorem move_of_spares (f : Forest) {v : Move} {p : UInt16} (h : v.Spares p (f p)) :
    f.move v p = f p := by
  unfold move
  split
  · rfl
  · cases v with
    | remove o => exact List.erase_of_not_mem h
    | insert o d =>
      show (if p = d then _ else (f p).erase o) = f p
      rw [if_neg (fun e => h.2 e.symm), List.erase_of_not_mem h.1]

theorem foldl_move_of_spares (f : Forest) (moves : List Move) {p : UInt16}
    (h : ∀ v ∈ moves, v.Spares p (f p)) : moves.foldl move f p = f p := by
  induction moves generalizing f with
  | nil => rfl
  | cons v rest ih =>
    have hv := f.move_of_spares (h v List.mem_cons_self)
    rw [List.foldl_cons, ih (f.move v), hv]
    intro w hw
    rw [hv]
    exact h w (List.mem_cons_of_mem v hw)

end Forest

namespace ObjectTable

/-- Does a move. -/
def move (t : ObjectTable) : Move → MemoryM Unit
  | .remove o => t.remove o
  | .insert o d => t.insert o d

/-- Does moves one after another. -/
def moveAll (t : ObjectTable) : List Move → MemoryM Unit
  | [] => return
  | v :: rest => do
    t.move v
    moveAll t rest

/-! ## The links in a memory -/

/-- Whether the entry of an object lies in the memory. -/
def Inside (t : ObjectTable) (m : Memory) (o : UInt16) : Prop :=
  t.entry o + entrySize ≤ m.size

instance (t : ObjectTable) (m : Memory) (o : UInt16) : Decidable (t.Inside m o) :=
  inferInstanceAs (Decidable (_ ≤ _))

/-- The links that a memory holds. -/
def links (t : ObjectTable) (m : Memory) : Links := fun l o =>
  match t.link l m o with
  | .ok target => target
  | .error _ => 0

/-- The memory holds the child lists `f` of the objects 1 to `n`. -/
structure Holds (t : ObjectTable) (n : UInt16) (m : Memory) (f : Forest) : Prop where
  inside : ∀ o, IsObject n o → t.Inside m o
  spells : Spells n (t.links m) f

/-- Whether an address is in the three links of an object. -/
def IsLinkByte (t : ObjectTable) (o : UInt16) (a : Nat) : Prop :=
  t.entry o + Link.parent.offset ≤ a ∧ a < t.entry o + propertiesOffset

/-- Nothing but links of the objects 1 to `n` was changed. -/
structure OnlyLinks (t : ObjectTable) (n : UInt16) (m m' : Memory) : Prop where
  size : m'.size = m.size
  bytes : ∀ a, (∀ o, IsObject n o → ¬ t.IsLinkByte o a) → m'.bytes[a]? = m.bytes[a]?

/-! ## Layout -/

theorem Link.offset_bounds (l : Link) :
    Link.parent.offset ≤ l.offset ∧ l.offset + 2 ≤ propertiesOffset := by
  cases l <;> decide

theorem Link.offset_disjoint {l l' : Link} (h : l ≠ l') :
    l.offset + 2 ≤ l'.offset ∨ l'.offset + 2 ≤ l.offset := by
  cases l <;> cases l' <;> first | exact absurd rfl h | decide

theorem entry_disjoint (t : ObjectTable) {o o' : UInt16} (h : o ≠ o') :
    t.entry o + entrySize ≤ t.entry o' ∨ t.entry o' + entrySize ≤ t.entry o := by
  have hne : o.toNat ≠ o'.toNat := fun e => h (UInt16.toNat_inj.1 e)
  unfold entry entrySize
  omega

theorem inside_link (t : ObjectTable) {m : Memory} {o : UInt16} (h : t.Inside m o) (l : Link) :
    t.entry o + l.offset + 1 < m.size := by
  have hl := l.offset_bounds.2
  unfold Inside entrySize at h
  unfold propertiesOffset at hl
  omega

theorem not_isLinkByte_of_ne (t : ObjectTable) {o o' : UInt16} (h : o ≠ o') {a : Nat}
    (h1 : t.entry o' ≤ a) (h2 : a < t.entry o' + entrySize) : ¬ t.IsLinkByte o a := by
  rintro ⟨h3, h4⟩
  have := t.entry_disjoint h
  unfold entrySize at *
  unfold propertiesOffset at h4
  omega

/-! ## Reading links -/

theorem link_of_inside (t : ObjectTable) {m : Memory} {o : UInt16} (h : t.Inside m o) (l : Link) :
    t.link l m o = .ok (t.links m l o) := by
  have hr : ∃ target, t.link l m o = .ok target := by
    unfold link
    split
    · exact ⟨0, rfl⟩
    · obtain ⟨w, hw⟩ := m.read16_of_lt _ (t.inside_link h l)
      exact ⟨w, by rw [hw]; rfl⟩
  obtain ⟨target, hr⟩ := hr
  unfold links
  rw [hr]

theorem link_of_ne_zero (t : ObjectTable) (m : Memory) {o : UInt16} (h : o ≠ 0) (l : Link) :
    t.link l m o = (liftM (m.read16 (t.entry o + l.offset)) : Except Fault UInt16) := by
  unfold link
  rw [if_neg h]

/-! ## Writing links -/

theorem link_setBytes (t : ObjectTable) {m : Memory} {o : UInt16} (h0 : o ≠ 0)
    (h : t.Inside m o) (l l' : Link) (o' target : UInt16) :
    t.link l' (m.setBytes (t.entry o + l.offset) (wordBytes target)) o' =
      if l' = l ∧ o' = o then .ok target else t.link l' m o' := by
  by_cases ho' : o' = 0
  · subst ho'
    rw [if_neg (fun e => h0 e.2.symm)]
    rfl
  rw [link_of_ne_zero _ _ ho', link_of_ne_zero _ _ ho']
  by_cases he : l' = l ∧ o' = o
  · obtain ⟨rfl, rfl⟩ := he
    rw [if_pos ⟨rfl, rfl⟩, Memory.read16_setBytes_self _ _ _ (t.inside_link h l')]
    rfl
  · rw [if_neg he, Memory.read16_setBytes_of_disjoint]
    have hl := l.offset_bounds
    have hl' := l'.offset_bounds
    have hp : Link.parent.offset = 6 := rfl
    have hs : propertiesOffset = 12 := rfl
    rw [length_wordBytes]
    by_cases ho : o' = o
    · subst ho
      have := Link.offset_disjoint (fun e => he ⟨e, rfl⟩ : l' ≠ l)
      omega
    · have := t.entry_disjoint ho
      unfold entrySize at this
      omega

/-- Setting a link of one of the objects changes that link alone. -/
theorem setLink_spec (t : ObjectTable) {n : UInt16} {m : Memory} {o : UInt16} (ho : IsObject n o)
    (h : t.Inside m o) (l : Link) (target : UInt16) :
    ∃ m', t.setLink l o target m = .ok () m' ∧ t.links m' = (t.links m).set l o target ∧
      t.OnlyLinks n m m' := by
  refine ⟨m.setBytes (t.entry o + l.offset) (wordBytes target), ?_, ?_, ?_, ?_⟩
  · unfold setLink Memory.write16
    rw [if_pos (t.inside_link h l)]
  · funext l' o'
    unfold links Links.set
    rw [t.link_setBytes ho.1 h l l' o' target]
    by_cases he : l' = l ∧ o' = o
    · rw [if_pos he, if_pos he]
    · rw [if_neg he, if_neg he]
  · exact Memory.size_setBytes m _ _
  · intro a ha
    apply Memory.getElem?_setBytes_outside
    rw [length_wordBytes]
    have hl := l.offset_bounds
    have hno := ha o ho
    unfold IsLinkByte at hno
    omega

namespace OnlyLinks

variable {t : ObjectTable} {n : UInt16} {m m' m'' : Memory}

theorem refl (t : ObjectTable) (n : UInt16) (m : Memory) : t.OnlyLinks n m m :=
  ⟨rfl, fun _ _ => rfl⟩

theorem trans (h : t.OnlyLinks n m m') (h' : t.OnlyLinks n m' m'') : t.OnlyLinks n m m'' :=
  ⟨h'.size.trans h.size, fun a ha => (h'.bytes a ha).trans (h.bytes a ha)⟩

theorem inside (h : t.OnlyLinks n m m') {o : UInt16} (hi : t.Inside m o) : t.Inside m' o := by
  unfold Inside at *
  rw [h.size]
  exact hi

/-- Bytes of an entry that are not in its links are kept. -/
theorem entry_byte (h : t.OnlyLinks n m m') {o : UInt16} {a : Nat} (h1 : t.entry o ≤ a)
    (h2 : a < t.entry o + entrySize)
    (h3 : a < t.entry o + Link.parent.offset ∨ t.entry o + propertiesOffset ≤ a) :
    m'.bytes[a]? = m.bytes[a]? := by
  refine h.bytes a (fun o' _ => ?_)
  by_cases ho : o' = o
  · subst ho
    unfold IsLinkByte
    omega
  · exact t.not_isLinkByte_of_ne ho h1 h2

/-- Attributes are kept. -/
theorem testAttribute (h : t.OnlyLinks n m m') (o attr : UInt16) :
    t.testAttribute m' o attr = t.testAttribute m o attr := by
  unfold ObjectTable.testAttribute
  split
  · rfl
  · next hna =>
    have hattr : attr.toNat < 48 := by
      unfold attributes at hna
      omega
    have hb : m'.bytes[t.attributeAddress o attr]? = m.bytes[t.attributeAddress o attr]? := by
      have h6 : Link.parent.offset = 6 := rfl
      have h14 : entrySize = 14 := rfl
      exact h.entry_byte (o := o) (by unfold attributeAddress; omega)
        (by unfold attributeAddress; omega) (.inl (by unfold attributeAddress; omega))
    rw [Memory.read8_congr h.size hb]

/-- The addresses of properties are kept. -/
theorem propertyTable (h : t.OnlyLinks n m m') (o : UInt16) :
    t.propertyTable m' o = t.propertyTable m o := by
  have hp : propertiesOffset = 12 := rfl
  have he : entrySize = 14 := rfl
  have ha : Memory.Agree m m' (t.entry o + propertiesOffset) (t.entry o + propertiesOffset + 2) :=
    fun a h1 h2 => h.entry_byte (o := o) (by omega) (by omega) (.inr h1)
  unfold ObjectTable.propertyTable
  rw [ha.read16_eq h.size]

end OnlyLinks

/-! ## The object before another one -/

/-- The walk finds the object before `o` where the siblings spell a list with `o` in it. -/
theorem walk_of_segment (t : ObjectTable) {m : Memory} {first c o : UInt16}
    {front post : List UInt16} (hin : ∀ x ∈ front ++ [c], t.Inside m x)
    (h : (t.links m).Segment first (front ++ c :: o :: post) 0)
    (hn : (front ++ c :: o :: post).Nodup) : t.walk m o first = some (.ok (some c)) := by
  have hsibling (x : UInt16) (hx : t.Inside m x) :
      t.sibling m x = .ok (t.links m .sibling x) :=
    t.link_of_inside hx .sibling
  induction front generalizing first with
  | nil =>
    obtain ⟨rfl, hc0, ho, -, -⟩ := h
    rw [walk, loop, walkRound, if_neg hc0, hsibling first (hin first (by simp))]
    dsimp only
    rw [if_pos ho]
  | cons x front ih =>
    obtain ⟨rfl, hx0, hrest⟩ := h
    have hn' := (List.nodup_cons.1 hn).2
    have hne : t.links m .sibling first ≠ o := hrest.first_ne hn'
    rw [walk, loop, walkRound, if_neg hx0, hsibling first (hin first (by simp))]
    dsimp only
    rw [if_neg hne]
    exact ih (fun y hy => hin y (List.mem_cons_of_mem first hy)) hrest hn'

theorem before_of_walk {t : ObjectTable} {m : Memory} {o first : UInt16}
    {r : Except Fault (Option UInt16)} (h : t.walk m o first = some r) :
    t.before m o first = r := by
  unfold before
  rw [h]
  rfl

/-! ## Taking out and putting in -/

section
variable {t : ObjectTable} {n : UInt16} {m : Memory} {f : Forest}

theorem Holds.link (h : t.Holds n m f) {o : UInt16} (ho : IsObject n o) (l : Link) :
    t.link l m o = .ok (t.links m l o) :=
  t.link_of_inside (h.inside o ho) l

/-- An object without a parent is taken out of nothing. -/
theorem remove_of_orphan (h : t.Holds n m f) {o : UInt16} (ho : IsObject n o)
    (hp : t.links m .parent o = 0) : t.remove o m = .ok () m := by
  unfold remove
  rw [if_neg ho.1, get_bind, ObjectTable.parent, lift_bind_ok (h.link ho .parent), hp, if_pos rfl]
  rfl

/-- An object with a parent is taken out of the list of that one. -/
theorem remove_of_child (h : t.Holds n m f) {o : UInt16} (ho : IsObject n o)
    (hp : IsObject n (t.links m .parent o)) {pre post : List UInt16}
    (hf : f (t.links m .parent o) = pre ++ o :: post) :
    ∃ m', t.remove o m = .ok () m' ∧ t.links m' = (t.links m).detach o pre ∧
      t.OnlyLinks n m m' := by
  have hchain := h.spells.chain _ hp
  have hnodup := h.spells.nodup _ hp
  rw [hf] at hchain hnodup
  -- whatever led to `o` leads past it, and then `o` loses its own two links
  have hlast : ∀ m₁, t.links m₁ = (t.links m).bypass o pre → t.OnlyLinks n m m₁ →
      ∃ m', (t.setLink .parent o 0 >>= fun _ => t.setLink .sibling o 0) m₁ = .ok () m' ∧
        t.links m' = (t.links m).detach o pre ∧ t.OnlyLinks n m m' := by
    intro m₁ hl₁ hk₁
    obtain ⟨m₂, hr₂, hl₂, hk₂⟩ := t.setLink_spec ho (hk₁.inside (h.inside o ho)) .parent 0
    have hk := hk₁.trans hk₂
    obtain ⟨m₃, hr₃, hl₃, hk₃⟩ := t.setLink_spec ho (hk.inside (h.inside o ho)) .sibling 0
    refine ⟨m₃, ?_, ?_, hk.trans hk₃⟩
    · rw [bind_ok hr₂, hr₃]
    · rw [hl₃, hl₂, hl₁]
      rfl
  unfold remove
  rw [if_neg ho.1, get_bind, ObjectTable.parent, lift_bind_ok (h.link ho .parent),
    if_neg hp.1, ObjectTable.sibling, lift_bind_ok (h.link ho .sibling), ObjectTable.child,
    lift_bind_ok (h.link hp .child)]
  rcases List.eq_nil_or_concat pre with rfl | ⟨front, c, rfl⟩
  · rw [if_pos hchain.1]
    obtain ⟨m₁, hr₁, hl₁, hk₁⟩ := t.setLink_spec hp (h.inside _ hp) .child (t.links m .sibling o)
    rw [bind_ok hr₁]
    exact hlast m₁ hl₁ hk₁
  · rw [List.concat_eq_append] at *
    rw [List.append_assoc, List.singleton_append] at hf hchain hnodup
    have hmem : ∀ x ∈ front ++ [c], IsObject n x := by
      intro x hx
      refine h.spells.isObject_of_mem hp ?_
      rw [hf, ← List.singleton_append, ← List.append_assoc]
      exact List.mem_append_left _ hx
    have hfirst := hchain.first_ne hnodup
    have hwalk := t.walk_of_segment (fun x hx => h.inside x (hmem x hx)) hchain hnodup
    rw [if_neg hfirst, lift_bind_ok (before_of_walk hwalk)]
    have hc : IsObject n c := hmem c (by simp)
    obtain ⟨m₁, hr₁, hl₁, hk₁⟩ := t.setLink_spec hc (h.inside c hc) .sibling (t.links m .sibling o)
    show ∃ m', (t.setLink .sibling c (t.links m .sibling o) >>= _) m = .ok () m' ∧ _
    rw [bind_ok hr₁]
    exact hlast m₁ (by rw [hl₁]; simp [Links.bypass]) hk₁

/-- Taking out an object, with or without a parent. -/
theorem remove_spec (h : t.Holds n m f) {o : UInt16} (ho : IsObject n o) :
    ∃ m', t.remove o m = .ok () m' ∧ t.Holds n m' (f.remove o) ∧ t.OnlyLinks n m m' ∧
      t.links m' .parent o = 0 := by
  by_cases hp : t.links m .parent o = 0
  · exact ⟨m, remove_of_orphan h ho hp, ⟨h.inside, h.spells.remove_of_orphan hp⟩,
      .refl t n m, hp⟩
  · have hpo : IsObject n (t.links m .parent o) := ⟨hp, h.spells.bounded .parent o ho⟩
    have hm : o ∈ f (t.links m .parent o) := (h.spells.mem_iff _ o hpo ho).2 rfl
    obtain ⟨pre, post, hf⟩ := List.append_of_mem hm
    obtain ⟨m', hr, hl, hk⟩ := remove_of_child h ho hpo hf
    refine ⟨m', hr, ⟨fun x hx => hk.inside (h.inside x hx), ?_⟩, hk, ?_⟩
    · rw [hl]
      exact h.spells.detach hpo hf
    · rw [hl, Links.detach_parent, if_pos rfl]

/-- Putting an object into another one, which may be itself or in its subtree. -/
theorem insert_spec (h : t.Holds n m f) {o d : UInt16} (ho : IsObject n o) (hd : IsObject n d) :
    ∃ m', t.insert o d m = .ok () m' ∧ t.Holds n m' (f.insert o d) ∧ t.OnlyLinks n m m' := by
  obtain ⟨m₀, hr₀, h₀, hk₀, horphan⟩ := remove_spec h ho
  obtain ⟨m₁, hr₁, hl₁, hk₁⟩ :=
    t.setLink_spec ho (h₀.inside o ho) .sibling (t.links m₀ .child d)
  obtain ⟨m₂, hr₂, hl₂, hk₂⟩ := t.setLink_spec ho (hk₁.inside (h₀.inside o ho)) .parent d
  have hk₁₂ := hk₁.trans hk₂
  obtain ⟨m₃, hr₃, hl₃, hk₃⟩ := t.setLink_spec hd (hk₁₂.inside (h₀.inside d hd)) .child o
  have hk := hk₁₂.trans hk₃
  refine ⟨m₃, ?_, ⟨fun x hx => hk.inside (h₀.inside x hx), ?_⟩, hk₀.trans hk⟩
  · unfold insert
    rw [if_neg (fun e => e.elim ho.1 hd.1), bind_ok hr₀, get_bind,
      ObjectTable.child, lift_bind_ok (h₀.link hd .child), bind_ok hr₁, bind_ok hr₂, hr₃]
  · rw [hl₃, hl₂, hl₁]
    exact h₀.spells.attach ho hd horphan

/-- A move that names object 0 changes nothing. -/
theorem move_of_isVoid (t : ObjectTable) (m : Memory) {v : Move} (hv : v.isVoid = true) :
    t.move v m = .ok () m := by
  cases v with
  | remove o =>
    have ho : o = 0 := by simpa [Move.isVoid] using hv
    subst ho
    rfl
  | insert o d =>
    have hod : o = 0 ∨ d = 0 := by simpa [Move.isVoid] using hv
    show t.insert o d m = _
    unfold insert
    rw [if_pos hod]
    rfl

/-- One move. -/
theorem move_spec (h : t.Holds n m f) {v : Move} (hv : v.Within n) :
    ∃ m', t.move v m = .ok () m' ∧ t.Holds n m' (f.move v) ∧ t.OnlyLinks n m m' := by
  unfold Forest.move
  by_cases hz : v.isVoid = true
  · rw [if_pos hz]
    exact ⟨m, t.move_of_isVoid m hz, h, .refl t n m⟩
  · rw [if_neg hz]
    cases v with
    | remove o =>
      have ho : IsObject n o := ⟨by simpa [Move.isVoid] using hz, hv⟩
      obtain ⟨m', hr, h', hk, -⟩ := remove_spec h ho
      exact ⟨m', hr, h', hk⟩
    | insert o d =>
      have hod : o ≠ 0 ∧ d ≠ 0 := by simpa [Move.isVoid] using hz
      exact insert_spec h ⟨hod.1, hv.1⟩ ⟨hod.2, hv.2⟩

end

/-! ## Sequences of moves -/

/-- Any moves of the objects 0 to `n` complete.  Afterwards the memory holds the child lists after
these moves; lists that no move has to do with, attributes, property addresses and all bytes but
the links are as before, and moves that name object 0 change nothing at all. -/
theorem moveAll_spec (t : ObjectTable) (n : UInt16) (moves : List Move) (m : Memory) (f : Forest)
    (h : t.Holds n m f) (hv : ∀ v ∈ moves, v.Within n) :
    ∃ m', t.moveAll moves m = .ok () m' ∧ t.Holds n m' (moves.foldl Forest.move f) ∧
      (∀ p, (∀ v ∈ moves, v.Spares p (f p)) → moves.foldl Forest.move f p = f p) ∧
      t.OnlyLinks n m m' ∧
      (∀ o attr, t.testAttribute m' o attr = t.testAttribute m o attr) ∧
      (∀ o, t.propertyTable m' o = t.propertyTable m o) ∧
      ((∀ v ∈ moves, v.isVoid = true) → m' = m) := by
  suffices hs : ∃ m', t.moveAll moves m = .ok () m' ∧ t.Holds n m' (moves.foldl Forest.move f) ∧
      t.OnlyLinks n m m' ∧ ((∀ v ∈ moves, v.isVoid = true) → m' = m) by
    obtain ⟨m', hr, h', hk, hz⟩ := hs
    exact ⟨m', hr, h', fun p hp => f.foldl_move_of_spares moves hp, hk, hk.testAttribute,
      hk.propertyTable, hz⟩
  induction moves generalizing m f with
  | nil => exact ⟨m, rfl, h, .refl t n m, fun _ => rfl⟩
  | cons v rest ih =>
    obtain ⟨m₁, hr₁, h₁, hk₁⟩ := move_spec h (hv v List.mem_cons_self)
    obtain ⟨m', hr, h', hk, hz⟩ := ih m₁ _ h₁ (fun w hw => hv w (List.mem_cons_of_mem v hw))
    refine ⟨m', ?_, h', hk₁.trans hk, fun hall => ?_⟩
    · unfold moveAll
      rw [bind_ok hr₁, hr]
    · have hm₁ : m₁ = m := by
        have := hr₁.symm.trans (t.move_of_isVoid m (hall v List.mem_cons_self))
        injection this
      rw [hz (fun w hw => hall w (List.mem_cons_of_mem v hw)), hm₁]

/-- A memory with three objects from address 14 on; 2 and 3 are the children of 1. -/
def threeObjects : Memory :=
  .ofList (List.replicate 24 0 ++ [0, 2, 0, 0] ++ List.replicate 6 0 ++ [0, 1, 0, 3, 0, 0]
    ++ List.replicate 8 0 ++ [0, 1, 0, 0, 0, 0] ++ List.replicate 2 0)

theorem isObject_three {o : UInt16} (h : IsObject 3 o) : o = 1 ∨ o = 2 ∨ o = 3 := by
  have h0 : o.toNat ≠ 0 := fun e => h.1 (UInt16.toNat_inj.1 e)
  have h3 : o.toNat ≤ 3 := UInt16.le_iff_toNat_le.1 h.2
  simp only [← UInt16.toNat_inj]
  show o.toNat = 1 ∨ o.toNat = 2 ∨ o.toNat = 3
  omega

theorem holds_threeObjects :
    (⟨0, 0⟩ : ObjectTable).Holds 3 threeObjects (fun p => if p = 1 then [2, 3] else []) where
  inside o ho := by
    rcases isObject_three ho with rfl | rfl | rfl <;> decide
  spells :=
    { bounded := fun l o ho => by
        rcases isObject_three ho with rfl | rfl | rfl <;> cases l <;> decide
      chain := fun p hp => by
        rcases isObject_three hp with rfl | rfl | rfl <;> decide
      nodup := fun p hp => by
        rcases isObject_three hp with rfl | rfl | rfl <;> decide
      mem_iff := fun p x hp hx => by
        rcases isObject_three hp with rfl | rfl | rfl <;>
          rcases isObject_three hx with rfl | rfl | rfl <;> decide }

/-- Object 3 goes into 2, then 2, which has it as a child, into itself, and 3 is taken out again. -/
theorem moveAll_spec_threeObjects :
    let t : ObjectTable := ⟨0, 0⟩
    let f : Forest := fun p => if p = 1 then [2, 3] else []
    let moves : List Move := [.insert 3 2, .insert 2 2, .remove 3]
    t.Holds 3 threeObjects f ∧ (∀ v ∈ moves, v.Within 3) ∧
      (∃ m', t.moveAll moves threeObjects = .ok () m' ∧
        t.Holds 3 m' (moves.foldl Forest.move f)) ∧
      moves.foldl Forest.move f 1 = [] ∧ moves.foldl Forest.move f 2 = [2] := by
  intro t f moves
  have hv : ∀ v ∈ moves, v.Within 3 := by
    intro v hm
    simp only [moves, List.mem_cons, List.not_mem_nil, or_false] at hm
    rcases hm with rfl | rfl | rfl
    · exact ⟨by decide, by decide⟩
    · exact ⟨by decide, by decide⟩
    · exact (by decide : (3 : UInt16) ≤ 3)
  obtain ⟨m', hr, h', -⟩ := moveAll_spec t 3 moves threeObjects f holds_threeObjects hv
  exact ⟨holds_threeObjects, hv, ⟨m', hr, h'⟩, by decide, by decide⟩

end ObjectTable
end ZMachine
