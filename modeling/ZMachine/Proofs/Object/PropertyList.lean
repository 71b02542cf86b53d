import Mathlib.Data.List.Chain
import ZMachine.Property
import ZMachine.Proofs.Action
import ZMachine.Proofs.Memory

/-!
# The properties of an object as an ordered list

A property table spells a list of properties, each with its number, its length and the address of
its data.  The headers have two forms, the numbers descend, and a zero ends the list:

    1 to 2 bytes     one byte, the number and one bit for the length
    up to 64 bytes   the number with the top bit, then the length with the top bit, 0 for 64

The list is walked forwards, and the length of a property is read backwards from its data.  Both see
the same list, so all that is asked of an object is answered from it:

    Carries t m o ps → Answers t m o ps
    Carries t m o ps → put p v m = .ok () m' ∧ m' differs in the value of p alone

What is put is read again, and the list is still spelled, if the bytes of the value are not those
of the object's own entry that tell where its table is.
-/

namespace ZMachine

namespace Property

/-- The bytes that put a value into a property, however long it is. -/
def valueBytes (p : Property) (value : UInt16) : List UInt8 :=
  if p.length = 1 then [lowByte value] else wordBytes value

/-- What is read of a value that was put into a property. -/
def kept (p : Property) (value : UInt16) : UInt16 :=
  if p.length = 1 then (lowByte value).toUInt16 else value

/-- The property with a number. -/
def lookup (ps : List Property) (number : Nat) : Option Property :=
  ps.find? fun p => p.number = number

/-- In a list without repeated numbers, a property is found by its number. -/
theorem lookup_of_mem {ps : List Property} (h : ps.Pairwise fun p q => q.number < p.number)
    {p : Property} (hp : p ∈ ps) : lookup ps p.number = some p := by
  unfold lookup
  induction h with
  | nil => exact absurd hp List.not_mem_nil
  | @cons q rest hfirst _ ih =>
    rcases List.mem_cons.1 hp with rfl | hrest
    · exact List.find?_cons_of_pos (by simp)
    · have := hfirst p hrest
      rw [List.find?_cons_of_neg (by simp only [decide_eq_true_eq]; omega)]
      exact ih hrest

/-- Without a property of a number, none is found. -/
theorem lookup_of_absent {ps : List Property} {number : Nat} (h : ∀ p ∈ ps, p.number ≠ number) :
    lookup ps number = none :=
  List.find?_eq_none.2 fun p hp => by simpa using h p hp

/-- A value takes no more bytes than the property has. -/
theorem length_valueBytes_le {p : Property} (h : 0 < p.length) (value : UInt16) :
    (p.valueBytes value).length ≤ p.length := by
  unfold valueBytes
  split
  · exact h
  · rw [length_wordBytes]
    omega

end Property

namespace ObjectTable

/-! ## Lists of properties in memory -/

/-- The header at an address announces a property. -/
inductive Announces (m : Memory) (a : Nat) : Property → Prop
  | short {b : UInt8} (hb : m.read8 a = .ok b) (hform : b &&& 0x80 = 0) (hnumber : 0 < b.toNat % 64) :
      Announces m a ⟨b.toNat % 64, if b &&& 0x40 = 0 then 1 else 2, a + 1⟩
  | long {b second : UInt8} (hb : m.read8 a = .ok b) (hform : b &&& 0x80 ≠ 0)
      (hnumber : 0 < b.toNat % 64) (hsecond : m.read8 (a + 1) = .ok second)
      (hmark : second &&& 0x80 ≠ 0) :
      Announces m a ⟨b.toNat % 64, longLength second, a + 2⟩

/-- From an address on, the memory spells a list of properties with a zero at its end, all of it in
the first 64 KiB. -/
inductive Spelled (m : Memory) : Nat → List Property → Prop
  | nil {a : Nat} (hb : m.read8 a = .ok 0) (ha : a < 65536) : Spelled m a []
  | cons {a : Nat} {p : Property} {rest : List Property} (head : Announces m a p)
      (tail : Spelled m p.stop rest) : Spelled m a (p :: rest)

/-- The property table of an object is well formed and spells these properties. -/
structure Carries (t : ObjectTable) (m : Memory) (o : UInt16) (ps : List Property) : Prop where
  spelled : ∃ a, t.firstAddress m o = .ok a ∧ Spelled m a ps
  descending : ps.Pairwise fun p q => q.number < p.number

/-! ## One property -/

section
variable {m m' : Memory} {a : Nat} {p : Property}

theorem longLength_bounds (b : UInt8) : 0 < longLength b ∧ longLength b ≤ 64 := by
  unfold longLength
  split
  · omega
  · omega

/-- The number and the length of a property are within their limits, and its data follow the header
at once. -/
theorem Announces.bounds (h : Announces m a p) :
    (0 < p.number ∧ p.number < 64) ∧ (0 < p.length ∧ p.length ≤ 64) ∧ a < p.data ∧ p.data ≤ a + 2 := by
  cases h with
  | @short b hb hform hnumber =>
    refine ⟨⟨hnumber, Nat.mod_lt _ (by decide)⟩, ?_, by simp, by simp⟩
    dsimp only
    split
    · omega
    · omega
  | @long b second hb hform hnumber hsecond hmark =>
    exact ⟨⟨hnumber, Nat.mod_lt _ (by decide)⟩, longLength_bounds second, by simp, by simp⟩

/-- The walk forwards finds what the header announces. -/
theorem Announces.propertyAt_eq (h : Announces m a p) : propertyAt m a = .ok (some p) := by
  have hne (b : UInt8) (hnumber : 0 < b.toNat % 64) : b ≠ 0 := by
    rintro rfl
    exact absurd hnumber (by decide)
  cases h with
  | @short b hb hform hnumber =>
    unfold propertyAt
    rw [hb]
    show (if b = 0 then _ else _) = _
    rw [if_neg (hne b hnumber)]
    show (if b &&& 0x80 != 0 then _ else _) = _
    rw [if_neg (by simp [hform])]
    by_cases hbit : b &&& 0x40 = 0
    · simp [hbit, pure, Except.pure]
    · simp [hbit, pure, Except.pure]
  | @long b second hb hform hnumber hsecond hmark =>
    unfold propertyAt
    rw [hb]
    show (if b = 0 then _ else _) = _
    rw [if_neg (hne b hnumber)]
    show (if b &&& 0x80 != 0 then _ else _) = _
    rw [if_pos (by simpa using hform), hsecond]
    rfl

/-- The look backwards from the data finds the length that the header announces. -/
theorem Announces.propertyLength_eq (h : Announces m a p) (hdata : p.data < 65536) :
    propertyLength m (.ofNat p.data) = .ok (.ofNat p.length) := by
  have hback (d : Nat) (hd : d < 65536) (hpos : 0 < d) (b : UInt8) (hb : m.read8 (d - 1) = .ok b) :
      propertyLength m (.ofNat d) =
        if b &&& 0x80 != 0 then .ok (.ofNat (longLength b))
        else if b &&& 0x40 != 0 then .ok 2 else .ok 1 := by
    have hnat : (UInt16.ofNat d).toNat = d := UInt16.toNat_ofNat_of_lt hd
    unfold propertyLength
    have hne : UInt16.ofNat d ≠ 0 := by
      intro h0
      rw [h0] at hnat
      exact Nat.ne_of_gt hpos hnat.symm
    rw [if_neg hne, hnat, hb]
    rfl
  cases h with
  | @short b hb hform hnumber =>
    rw [hback _ hdata (Nat.succ_pos a) b hb, if_neg (by simp [hform])]
    by_cases hbit : b &&& 0x40 = 0
    · simp [hbit]
    · simp [hbit]
  | @long b second hb hform hnumber hsecond hmark =>
    rw [hback _ hdata (Nat.succ_pos _) second hsecond, if_pos (by simpa using hmark)]

/-- A header is where its bytes are. -/
theorem Announces.agree (h : Announces m a p) (hm : Memory.Agree m m' a p.data) :
    Announces m' a p := by
  cases h with
  | @short b hb hform hnumber =>
    exact .short (hm.read8 (Nat.le_refl a) (Nat.lt_succ_self a) hb) hform hnumber
  | @long b second hb hform hnumber hsecond hmark =>
    exact .long (hm.read8 (Nat.le_refl a) (by simp) hb) hform hnumber
      (hm.read8 (Nat.le_succ a) (by simp) hsecond) hmark

end

/-! ## The list -/

section
variable {m m' : Memory} {a : Nat} {ps : List Property}

/-- The data of the properties of a list come after its start and before the end of the memory and
of the first 64 KiB. -/
theorem Spelled.data_bounds (h : Spelled m a ps) {p : Property} (hp : p ∈ ps) :
    a < p.data ∧ p.stop < m.size ∧ p.stop < 65536 := by
  have hend {b : Nat} {qs : List Property} (hqs : Spelled m b qs) : b < m.size ∧ b < 65536 := by
    induction hqs with
    | @nil b hb ha =>
      rw [Memory.read8_eq_ok_iff] at hb
      exact ⟨(Array.getElem?_eq_some_iff.1 hb).1, ha⟩
    | @cons b q rest head tail ih =>
      have := head.bounds
      unfold Property.stop at ih
      omega
  induction h with
  | nil => exact absurd hp (List.not_mem_nil)
  | @cons a q rest head tail ih =>
    have hq := head.bounds
    rcases List.mem_cons.1 hp with rfl | hrest
    · exact ⟨hq.2.2.1, hend tail⟩
    · have := ih hrest
      unfold Property.stop at this
      unfold Property.stop
      omega

/-- The numbers of the properties are 1 to 63, and their lengths 1 to 64. -/
theorem Spelled.limits (h : Spelled m a ps) {p : Property} (hp : p ∈ ps) :
    (0 < p.number ∧ p.number < 64) ∧ (0 < p.length ∧ p.length ≤ 64) := by
  induction h with
  | nil => exact absurd hp (List.not_mem_nil)
  | @cons a q rest head tail ih =>
    rcases List.mem_cons.1 hp with rfl | hrest
    · exact ⟨head.bounds.1, head.bounds.2.1⟩
    · exact ih hrest

/-- A list has fewer properties than the memory has bytes. -/
theorem Spelled.length_lt (h : Spelled m a ps) : a + ps.length < m.size := by
  induction h with
  | @nil a hb ha =>
    rw [Memory.read8_eq_ok_iff] at hb
    exact (Array.getElem?_eq_some_iff.1 hb).1
  | @cons a p rest head tail ih =>
    have := head.bounds
    unfold Property.stop at ih
    rw [List.length_cons]
    omega

/-- The look backwards finds the lengths of the list. -/
theorem Spelled.propertyLength_eq (h : Spelled m a ps) {p : Property} (hp : p ∈ ps) :
    propertyLength m (.ofNat p.data) = .ok (.ofNat p.length) := by
  have hdata := (h.data_bounds hp).2.2
  unfold Property.stop at hdata
  induction h with
  | nil => exact absurd hp (List.not_mem_nil)
  | @cons a q rest head tail ih =>
    rcases List.mem_cons.1 hp with rfl | hrest
    · exact head.propertyLength_eq (by omega)
    · exact ih hrest

/-- The walk forwards meets the first property of a list, or its end. -/
theorem Spelled.propertyAt_eq (h : Spelled m a ps) : propertyAt m a = .ok ps.head? := by
  cases h with
  | nil hb ha =>
    unfold propertyAt
    rw [hb]
    rfl
  | cons head tail => exact head.propertyAt_eq

/-- After a property the walk meets the next one. -/
theorem Spelled.propertyAt_stop {front rest : List Property} {p : Property}
    (h : Spelled m a (front ++ p :: rest)) : propertyAt m p.stop = .ok rest.head? := by
  induction front generalizing a with
  | nil =>
    cases h with
    | cons head tail => exact tail.propertyAt_eq
  | cons q front ih =>
    cases h with
    | cons head tail => exact ih tail

/-- The data of two properties have no byte in common. -/
theorem Spelled.disjoint (h : Spelled m a ps) {p q : Property} (hp : p ∈ ps) (hq : q ∈ ps)
    (hne : q ≠ p) : p.stop ≤ q.data ∨ q.stop ≤ p.data := by
  induction h with
  | nil => exact absurd hp List.not_mem_nil
  | @cons a r rest head tail ih =>
    rcases List.mem_cons.1 hp with rfl | hprest
    · rcases List.mem_cons.1 hq with rfl | hqrest
      · exact absurd rfl hne
      · exact .inl (Nat.le_of_lt (tail.data_bounds hqrest).1)
    · rcases List.mem_cons.1 hq with rfl | hqrest
      · exact .inr (Nat.le_of_lt (tail.data_bounds hprest).1)
      · exact ih hprest hqrest

/-- The search finds the property with a number, and no other one.  It may stop at the first smaller
number because the numbers descend. -/
theorem Spelled.findFrom_eq (h : Spelled m a ps)
    (hdescending : ps.Pairwise fun p q => q.number < p.number) (number : Nat) {fuel : Nat}
    (hfuel : ps.length < fuel) : findFrom m number fuel a = .ok (Property.lookup ps number) := by
  induction h generalizing fuel with
  | @nil a hb ha =>
    obtain ⟨fuel, rfl⟩ : ∃ k, fuel = k + 1 := ⟨fuel - 1, by simp at hfuel; omega⟩
    unfold findFrom propertyAt
    rw [hb]
    rfl
  | @cons a p rest head tail ih =>
    obtain ⟨fuel, rfl⟩ : ∃ k, fuel = k + 1 := ⟨fuel - 1, by simp at hfuel; omega⟩
    obtain ⟨hfirst, hrest⟩ := List.pairwise_cons.1 hdescending
    unfold findFrom Property.lookup
    rw [head.propertyAt_eq, List.find?_cons]
    show (if p.number = number then _ else _) = _
    by_cases hfound : p.number = number
    · rw [if_pos hfound]
      simp [hfound, pure, Except.pure]
    · rw [if_neg hfound]
      simp only [hfound, decide_false]
      by_cases hsmaller : p.number < number
      · rw [if_pos hsmaller]
        have hnone : rest.find? (fun q => decide (q.number = number)) = none := by
          rw [List.find?_eq_none]
          intro q hq
          have := hfirst q hq
          simp only [decide_eq_true_eq]
          omega
        rw [hnone]
        rfl
      · rw [if_neg hsmaller]
        rw [List.length_cons] at hfuel
        exact ih hrest (by omega)

/-- A list is spelled by the bytes of its headers; those of the data do not matter. -/
theorem Spelled.agree (h : Spelled m a ps)
    (hm : ∀ k, a ≤ k → (∀ p ∈ ps, k < p.data ∨ p.stop ≤ k) → m'.bytes[k]? = m.bytes[k]?) :
    Spelled m' a ps := by
  induction h with
  | @nil a hb ha =>
    refine .nil ?_ ha
    rw [Memory.read8_eq_ok_iff] at hb ⊢
    rw [hm a (Nat.le_refl a) (fun p hp => absurd hp List.not_mem_nil), hb]
  | @cons a p rest head tail ih =>
    have hp := head.bounds
    refine .cons (head.agree (fun k h1 h2 => hm k h1 (fun q hq => .inl ?_))) (ih ?_)
    · rcases List.mem_cons.1 hq with rfl | hrest
      · exact h2
      · have := tail.data_bounds hrest
        unfold Property.stop at this
        omega
    · intro k hk hout
      refine hm k (by unfold Property.stop at hk; omega) (fun q hq => ?_)
      rcases List.mem_cons.1 hq with rfl | hrest
      · exact .inr hk
      · exact hout q hrest

end

/-! ## What is asked of an object -/

/-- The number of the first property, or 0. -/
def firstNumber (ps : List Property) : UInt16 :=
  match ps with
  | [] => 0
  | p :: _ => .ofNat p.number

/-- What the operations answer about an object with these properties. -/
structure Answers (t : ObjectTable) (m : Memory) (o : UInt16) (ps : List Property) : Prop where
  /-- A property is told by the address of its data. -/
  address : ∀ p ∈ ps, ∃ a, t.propertyAddress m o (.ofNat p.number) = .ok a ∧ a.toNat = p.data
  /-- The length told for that address is the one found by the walk along the list. -/
  length : ∀ p ∈ ps, ∃ n, propertyLength m (.ofNat p.data) = .ok n ∧ n.toNat = p.length
  /-- The value of a property of one byte. -/
  byte : ∀ p ∈ ps, p.length = 1 →
    ∃ b, m.bytes[p.data]? = some b ∧ t.getProperty m o (.ofNat p.number) = .ok b.toUInt16
  /-- The value of a longer property. -/
  firstWord : ∀ p ∈ ps, p.length ≠ 1 →
    ∃ high low, m.bytes[p.data]? = some high ∧ m.bytes[p.data + 1]? = some low ∧
      t.getProperty m o (.ofNat p.number) = .ok (word high low)
  /-- Of a property that is absent, the address is 0 and the value is the default of the story. -/
  absent : ∀ number : UInt16, 1 ≤ number → (∀ p ∈ ps, p.number ≠ number.toNat) →
    t.propertyAddress m o number = .ok 0 ∧
      t.getProperty m o number = liftM (m.read16 (t.defaults + 2 * (number.toNat - 1)))
  /-- From 0 on, each number leads to the next one, and the last one to 0. -/
  order : List.IsChain (fun number next => t.nextProperty m o number = .ok next)
    (0 :: (ps.map fun p => UInt16.ofNat p.number) ++ [0])

section
variable {t : ObjectTable} {m m' : Memory} {o : UInt16} {ps : List Property}

theorem firstAddress_eq_ok_iff {a : Nat} :
    t.firstAddress m o = .ok a ↔
      ∃ table words, m.read16 (t.entry o + propertiesOffset) = .ok table ∧
        m.read8 table.toNat = .ok words ∧ a = table.toNat + 1 + 2 * words.toNat := by
  unfold firstAddress propertyTable
  cases htable : m.read16 (t.entry o + propertiesOffset) with
  | error e => simp [liftM, monadLift, MonadLift.monadLift, bind, Except.bind]
  | ok table =>
    cases hwords : m.read8 table.toNat with
    | error e =>
      simp [liftM, monadLift, MonadLift.monadLift, bind, Except.bind, pure, Except.pure, hwords]
    | ok words =>
      simp [liftM, monadLift, MonadLift.monadLift, bind, Except.bind, pure, Except.pure, hwords,
        eq_comm]

/-- A property is found where the list has it. -/
theorem Carries.find_eq (h : t.Carries m o ps) (number : UInt16) :
    t.find m o number = .ok (Property.lookup ps number.toNat) := by
  obtain ⟨a, ha, hps⟩ := h.spelled
  have hlength := hps.length_lt
  unfold find
  rw [ha]
  exact hps.findFrom_eq h.descending number.toNat (by omega)

theorem Carries.toNat_number (h : t.Carries m o ps) {p : Property} (hp : p ∈ ps) :
    (UInt16.ofNat p.number).toNat = p.number := by
  obtain ⟨a, -, hps⟩ := h.spelled
  have := (hps.limits hp).1
  exact UInt16.toNat_ofNat_of_lt' (by show _ < 65536; omega)

theorem Carries.find_of_mem (h : t.Carries m o ps) {p : Property} (hp : p ∈ ps) :
    t.find m o (.ofNat p.number) = .ok (some p) := by
  rw [h.find_eq, h.toNat_number hp, Property.lookup_of_mem h.descending hp]

variable (ho : o ≠ 0)
include ho

theorem Carries.propertyAddress_eq (h : t.Carries m o ps) (number : UInt16) :
    t.propertyAddress m o number = .ok (match Property.lookup ps number.toNat with
      | some p => .ofNat p.data
      | none => 0) := by
  unfold propertyAddress
  rw [if_neg ho, h.find_eq]
  cases Property.lookup ps number.toNat <;> rfl

theorem Carries.getProperty_eq (h : t.Carries m o ps) (number : UInt16) :
    t.getProperty m o number = match Property.lookup ps number.toNat with
      | some p => value m p
      | none => liftM (m.read16 (t.defaultAddress number)) := by
  unfold getProperty
  dsimp only
  rw [if_neg ho, h.find_eq]
  cases Property.lookup ps number.toNat <;> rfl

/-- After a property comes the next one of the list. -/
theorem Carries.nextProperty_eq {front rest : List Property} {p : Property}
    (h : t.Carries m o (front ++ p :: rest)) :
    t.nextProperty m o (.ofNat p.number) = .ok (firstNumber rest) := by
  have hp : p ∈ front ++ p :: rest := by simp
  obtain ⟨a, -, hps⟩ := h.spelled
  have hnumber := (hps.limits hp).1
  have hne : UInt16.ofNat p.number ≠ 0 := by
    intro h0
    have := h.toNat_number hp
    rw [h0] at this
    exact Nat.ne_of_gt hnumber.1 this.symm
  unfold nextProperty
  dsimp only
  rw [if_neg ho, if_neg hne, h.find_of_mem hp]
  show (propertyAt m p.stop >>= _) = _
  rw [hps.propertyAt_stop]
  cases rest <;> rfl

/-- From a place in the list on, each number leads to the next one. -/
theorem Carries.isChain {front rest : List Property} (h : t.Carries m o (front ++ rest))
    {number : UInt16} (hnumber : t.nextProperty m o number = .ok (firstNumber rest)) :
    List.IsChain (fun number next => t.nextProperty m o number = .ok next)
      (number :: (rest.map fun p => UInt16.ofNat p.number) ++ [0]) := by
  induction rest generalizing front number with
  | nil => exact List.isChain_pair.2 hnumber
  | cons p rest ih =>
    have hrest : t.Carries m o ((front ++ [p]) ++ rest) := by rwa [List.append_assoc]
    exact List.isChain_cons_cons.2 ⟨hnumber, ih hrest (h.nextProperty_eq ho)⟩

/-- All that is asked of an object is answered from the list. -/
theorem Carries.answers (h : t.Carries m o ps) : t.Answers m o ps := by
  obtain ⟨a, ha, hps⟩ := h.spelled
  have hvalue (p : Property) (hp : p ∈ ps) :
      t.getProperty m o (.ofNat p.number) = value m p := by
    rw [h.getProperty_eq ho, h.toNat_number hp, Property.lookup_of_mem h.descending hp]
  constructor
  case address =>
    intro p hp
    have hdata := (hps.data_bounds hp).2.2
    unfold Property.stop at hdata
    refine ⟨.ofNat p.data, ?_, UInt16.toNat_ofNat_of_lt' (by show _ < 65536; omega)⟩
    rw [h.propertyAddress_eq ho, h.toNat_number hp, Property.lookup_of_mem h.descending hp]
  case length =>
    intro p hp
    have hlength := (hps.limits hp).2
    exact ⟨.ofNat p.length, hps.propertyLength_eq hp,
      UInt16.toNat_ofNat_of_lt' (by show _ < 65536; omega)⟩
  case byte =>
    intro p hp hone
    have hdata := (hps.data_bounds hp).2.1
    unfold Property.stop at hdata
    obtain ⟨b, hb⟩ := m.read8_of_lt p.data (by omega)
    refine ⟨b, (m.read8_eq_ok_iff p.data b).1 hb, ?_⟩
    rw [hvalue p hp]
    unfold value
    rw [if_pos hone, hb]
    rfl
  case firstWord =>
    intro p hp hlong
    have hdata := (hps.data_bounds hp).2.1
    have hlength := (hps.limits hp).2
    unfold Property.stop at hdata
    obtain ⟨w, hw⟩ := m.read16_of_lt p.data (by omega)
    obtain ⟨high, low, hhigh, hlow, rfl⟩ := (m.read16_eq_ok_iff p.data w).1 hw
    refine ⟨high, low, hhigh, hlow, ?_⟩
    rw [hvalue p hp]
    unfold value
    rw [if_neg hlong, hw]
    rfl
  case absent =>
    intro number hone habsent
    have hmax : max 1 number.toNat = number.toNat := max_eq_right (UInt16.le_iff_toNat_le.1 hone)
    rw [h.propertyAddress_eq ho, h.getProperty_eq ho, Property.lookup_of_absent habsent]
    refine ⟨rfl, ?_⟩
    unfold defaultAddress
    rw [hmax]
  case order =>
    have hall : t.Carries m o ([] ++ ps) := h
    refine hall.isChain ho ?_
    unfold nextProperty
    dsimp only
    rw [if_neg ho, if_pos rfl, ha]
    show (propertyAt m a >>= _) = _
    rw [hps.propertyAt_eq]
    cases ps <;> rfl

/-! ## Putting a value -/

/-- A value that is put is written over the first bytes of the data. -/
theorem Carries.putProperty_eq (h : t.Carries m o ps) {p : Property} (hp : p ∈ ps)
    (v : UInt16) : t.putProperty o (.ofNat p.number) v m =
      .ok () (m.setBytes p.data (p.valueBytes v)) := by
  obtain ⟨a, -, hps⟩ := h.spelled
  have hdata := (hps.data_bounds hp).2.1
  have hlength := (hps.limits hp).2
  unfold Property.stop at hdata
  unfold putProperty
  rw [if_neg ho, get_bind, lift_bind_ok (h.find_of_mem hp)]
  show (if p.length = 1 then _ else _ : MemoryM Unit) m = _
  unfold Property.valueBytes
  by_cases hone : p.length = 1
  · rw [if_pos hone, if_pos hone]
    unfold Memory.write8
    rw [if_pos (by omega)]
    rfl
  · rw [if_neg hone, if_neg hone]
    unfold Memory.write16
    rw [if_pos (by omega)]

/-- A property that is absent cannot be put, and nothing is changed. -/
theorem Carries.putProperty_of_absent (h : t.Carries m o ps) {number : UInt16}
    (habsent : ∀ p ∈ ps, p.number ≠ number.toNat) (v : UInt16) :
    t.putProperty o number v m = .error (.noSuchProperty o number) m := by
  unfold putProperty
  rw [if_neg ho, get_bind, lift_bind_ok (h.find_eq number), Property.lookup_of_absent habsent]
  rfl

omit ho in
/-- Where the bytes of a value are not those that tell where the table is, the table is well formed
after they were written and spells the same list. -/
theorem Carries.setBytes (h : t.Carries m o ps) {p : Property} (hp : p ∈ ps) (v : UInt16)
    (hentry : t.entry o + entrySize ≤ p.data ∨
      p.data + (p.valueBytes v).length ≤ t.entry o + propertiesOffset) :
    t.Carries (m.setBytes p.data (p.valueBytes v)) o ps := by
  obtain ⟨a, ha, hps⟩ := h.spelled
  have hsize := Property.length_valueBytes_le (hps.limits hp).2.1 v
  have hdata := (hps.data_bounds hp).1
  have hout (k : Nat) (hk : k < p.data ∨ p.data + (p.valueBytes v).length ≤ k) :
      (m.setBytes p.data (p.valueBytes v)).bytes[k]? = m.bytes[k]? :=
    m.getElem?_setBytes_outside p.data k (p.valueBytes v) hk
  refine ⟨⟨a, ?_, hps.agree (fun k _ hk => hout k ?_)⟩, h.descending⟩
  · obtain ⟨table, words, htable, hwords, rfl⟩ := firstAddress_eq_ok_iff.1 ha
    refine firstAddress_eq_ok_iff.2 ⟨table, words, ?_, ?_, rfl⟩
    · unfold entrySize propertiesOffset at hentry
      unfold propertiesOffset at htable ⊢
      rw [m.read16_setBytes_of_disjoint p.data _ _ (by omega)]
      exact htable
    · rw [Memory.read8_eq_ok_iff] at hwords ⊢
      rw [hout _ (.inl (by omega)), hwords]
  · have := hk p hp
    unfold Property.stop at this
    omega

/-- What was put is read again. -/
theorem Carries.getProperty_setBytes (h : t.Carries m o ps) {p : Property} (hp : p ∈ ps) (v : UInt16)
    (hentry : t.entry o + entrySize ≤ p.data ∨
      p.data + (p.valueBytes v).length ≤ t.entry o + propertiesOffset) :
    t.getProperty (m.setBytes p.data (p.valueBytes v)) o (.ofNat p.number) = .ok (p.kept v) := by
  obtain ⟨a, -, hps⟩ := h.spelled
  have hdata := (hps.data_bounds hp).2.1
  have hlength := (hps.limits hp).2
  unfold Property.stop at hdata
  rw [(h.setBytes hp v hentry).getProperty_eq ho, h.toNat_number hp,
    Property.lookup_of_mem h.descending hp]
  show value (m.setBytes p.data (p.valueBytes v)) p = _
  unfold value Property.valueBytes Property.kept
  by_cases hone : p.length = 1
  · have hbyte : (m.setBytes p.data [lowByte v]).read8 p.data = .ok (lowByte v) := by
      rw [Memory.read8_eq_ok_iff]
      exact m.getElem?_setBytes_inside p.data 0 [lowByte v] Nat.one_pos (by simp; omega)
    rw [if_pos hone, if_pos hone, if_pos hone, hbyte]
    rfl
  · rw [if_neg hone, if_neg hone, if_neg hone, m.read16_setBytes_self p.data v (by omega)]
    rfl

/-- The value of another property is read as before. -/
theorem Carries.getProperty_setBytes_of_ne (h : t.Carries m o ps) {p q : Property} (hp : p ∈ ps)
    (hq : q ∈ ps) (hne : q ≠ p) (v : UInt16)
    (hentry : t.entry o + entrySize ≤ p.data ∨
      p.data + (p.valueBytes v).length ≤ t.entry o + propertiesOffset) :
    t.getProperty (m.setBytes p.data (p.valueBytes v)) o (.ofNat q.number) =
      t.getProperty m o (.ofNat q.number) := by
  obtain ⟨a, -, hps⟩ := h.spelled
  have hsize := Property.length_valueBytes_le (hps.limits hp).2.1 v
  have hlength := (hps.limits hq).2
  have hapart := hps.disjoint hp hq hne
  unfold Property.stop at hapart
  rw [(h.setBytes hp v hentry).getProperty_eq ho, h.getProperty_eq ho, h.toNat_number hq,
    Property.lookup_of_mem h.descending hq]
  show value (m.setBytes p.data (p.valueBytes v)) q = value m q
  unfold value
  by_cases hone : q.length = 1
  · rw [if_pos hone, if_pos hone, Memory.read8_congr (Memory.size_setBytes _ _ _)
      (m.getElem?_setBytes_outside p.data q.data _ (by omega))]
  · rw [if_neg hone, if_neg hone, m.read16_setBytes_of_disjoint p.data q.data _ (by omega)]

end

/-! ## An object and its list -/

/-- An object whose table is well formed answers from the list that the table spells.  What is put
into a property that is there changes the bytes of its value alone, and where these are not the ones
of the object's own entry that tell where its table is, it is read again, the table stays well
formed, and all other properties are as before.  A property that is absent cannot be put. -/
theorem carries_spec (t : ObjectTable) (m : Memory) (o : UInt16) (ps : List Property) (ho : o ≠ 0)
    (h : t.Carries m o ps) :
    t.Answers m o ps ∧
      (∀ p ∈ ps, ∀ v : UInt16, ∃ m', t.putProperty o (.ofNat p.number) v m = .ok () m' ∧
        (∀ k, k < p.data ∨ p.data + (p.valueBytes v).length ≤ k → m'.bytes[k]? = m.bytes[k]?) ∧
        ((t.entry o + entrySize ≤ p.data ∨
            p.data + (p.valueBytes v).length ≤ t.entry o + propertiesOffset) →
          t.getProperty m' o (.ofNat p.number) = .ok (p.kept v) ∧
            t.Carries m' o ps ∧ t.Answers m' o ps ∧
            ∀ q ∈ ps, q ≠ p →
              t.getProperty m' o (.ofNat q.number) = t.getProperty m o (.ofNat q.number) ∧
                Memory.Agree m m' q.data q.stop)) ∧
      ∀ number : UInt16, (∀ p ∈ ps, p.number ≠ number.toNat) → ∀ v,
        t.putProperty o number v m = .error (.noSuchProperty o number) m := by
  refine ⟨h.answers ho, fun p hp v => ?_, fun number habsent v => h.putProperty_of_absent ho habsent v⟩
  refine ⟨_, h.putProperty_eq ho hp v, fun k hk => m.getElem?_setBytes_outside p.data k _ hk, ?_⟩
  intro hentry
  have hafter := h.setBytes hp v hentry
  refine ⟨h.getProperty_setBytes ho hp v hentry, hafter, hafter.answers ho, fun q hq hne => ?_⟩
  refine ⟨h.getProperty_setBytes_of_ne ho hp hq hne v hentry, fun k hstart hstop => ?_⟩
  obtain ⟨a, -, hps⟩ := h.spelled
  have hsize := Property.length_valueBytes_le (hps.limits hp).2.1 v
  have hapart := hps.disjoint hp hq hne
  refine m.getElem?_setBytes_outside p.data k _ ?_
  unfold Property.stop at hapart hstop
  omega

/-- A memory with one object, whose table at 28 follows its entry: a short name of one word, then the
properties 20 of two bytes, 10 of one byte and 5 of four bytes, which has a long header. -/
def threeProperties : Memory :=
  .ofList (List.replicate 26 0 ++ [0, 28] ++ [1, 0x94, 0xA5] ++ [0x54, 0xAB, 0xCD] ++ [10, 7]
    ++ [0x85, 0x84, 1, 2, 3, 4] ++ [0])

theorem carries_threeProperties :
    (⟨0, 0⟩ : ObjectTable).Carries threeProperties 1 [⟨20, 2, 32⟩, ⟨10, 1, 35⟩, ⟨5, 4, 38⟩] where
  spelled := by
    have hword : Announces threeProperties 31 ⟨20, 2, 32⟩ :=
      .short (b := 0x54) (by decide) (by decide) (by decide)
    have hbyte : Announces threeProperties 34 ⟨10, 1, 35⟩ :=
      .short (b := 10) (by decide) (by decide) (by decide)
    have hlong : Announces threeProperties 36 ⟨5, 4, 38⟩ := by
      have hfirst : threeProperties.read8 36 = .ok 0x85 := by decide
      have hsecond : threeProperties.read8 (36 + 1) = .ok 0x84 := by decide
      exact .long hfirst (by decide) (by decide) hsecond (by decide)
    exact ⟨31, by decide, .cons hword (.cons hbyte (.cons hlong (.nil (by decide) (by decide))))⟩
  descending := by decide

/-- The byte of property 10 is put; the other two properties are as before. -/
theorem carries_spec_threeProperties :
    let t : ObjectTable := ⟨0, 0⟩
    let ps : List Property := [⟨20, 2, 32⟩, ⟨10, 1, 35⟩, ⟨5, 4, 38⟩]
    (1 : UInt16) ≠ 0 ∧ t.Carries threeProperties 1 ps ∧ t.Answers threeProperties 1 ps ∧
      ∃ m', t.putProperty 1 10 0x1FF threeProperties = .ok () m' ∧
        t.getProperty m' 1 10 = .ok 0xFF ∧ t.Answers m' 1 ps ∧
        t.getProperty m' 1 5 = t.getProperty threeProperties 1 5 := by
  intro t ps
  have ho : (1 : UInt16) ≠ 0 := by decide
  obtain ⟨hanswers, hput, -⟩ := carries_spec t threeProperties 1 ps ho carries_threeProperties
  obtain ⟨m', hm', -, hafter⟩ := hput ⟨10, 1, 35⟩ (by decide) 0x1FF
  obtain ⟨hread, -, hanswers', hothers⟩ := hafter (by decide)
  exact ⟨ho, carries_threeProperties, hanswers, m', hm', hread, hanswers',
    (hothers ⟨5, 4, 38⟩ (by decide) (by decide)).1⟩

/-- A memory with one object, whose property 1 is the word of its own entry that tells where its
table is. -/
def ownEntry : Memory :=
  .ofList (List.replicate 25 0 ++ [0x41, 0, 24, 0])

/-- There the table is well formed, but what is put into property 1 is not read again. -/
theorem put_ownEntry :
    let t : ObjectTable := ⟨0, 0⟩
    t.Carries ownEntry 1 [⟨1, 2, 26⟩] ∧ t.getProperty ownEntry 1 1 = .ok 24 ∧
      ∃ m', t.putProperty 1 1 0x1234 ownEntry = .ok () m' ∧
        t.getProperty m' 1 1 ≠ .ok 0x1234 ∧ ¬ t.Carries m' 1 [⟨1, 2, 26⟩] := by
  intro t
  have hword : Announces ownEntry 25 ⟨1, 2, 26⟩ :=
    .short (b := 0x41) (by decide) (by decide) (by decide)
  have hcarries : t.Carries ownEntry 1 [⟨1, 2, 26⟩] :=
    ⟨⟨25, by decide, .cons hword (.nil (by decide) (by decide))⟩, by decide⟩
  refine ⟨hcarries, by decide, _, hcarries.putProperty_eq (by decide) (List.mem_singleton_self _) _,
    by decide, fun hafter => ?_⟩
  obtain ⟨a, ha, -⟩ := hafter.spelled
  have hlost : t.firstAddress (ownEntry.setBytes 26 (wordBytes 0x1234)) 1 =
      .error (.outOfRange ⟨0x1234, 1, 29⟩) := by decide
  exact absurd (hlost.symm.trans ha) (by simp)

end ObjectTable
end ZMachine
