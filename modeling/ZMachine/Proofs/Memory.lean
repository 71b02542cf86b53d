import Mathlib.Data.Nat.Bitwise
import ZMachine.Memory.Update

/-!
# Reading what was written

Bytes are looked at through `m.bytes[a]?`, which is `none` outside the memory.  The accesses of a
memory are told by it, and what a write leaves is told by it:

    read8 m a = .ok b        ↔   m.bytes[a]? = some b
    read16 m a = .ok w       ↔   the bytes at a and a + 1 are those of w
    (setBytes m a data)[k]?  =   data[k - a]? inside the data, m.bytes[k]? elsewhere

`Agree m m' start stop` says that two memories hold the same bytes from `start` to before `stop`,
and `Holds m a bytes` that a memory holds these bytes from `a` on.
-/

namespace ZMachine

/-! ## Words and their bytes -/

theorem word_wordBytes (w : UInt16) : word (highByte w) (lowByte w) = w := by
  apply UInt16.toBitVec_inj.1
  simp only [word, highByte, lowByte, UInt16.toBitVec_or, UInt16.toBitVec_shiftLeft,
    UInt8.toBitVec_toUInt16, UInt16.toBitVec_toUInt8, UInt16.toBitVec_shiftRight]
  ext i hi
  simp
  grind

theorem highByte_word (high low : UInt8) : highByte (word high low) = high := by
  apply UInt8.toBitVec_inj.1
  simp only [word, highByte, UInt16.toBitVec_or, UInt16.toBitVec_shiftLeft,
    UInt8.toBitVec_toUInt16, UInt16.toBitVec_toUInt8, UInt16.toBitVec_shiftRight]
  ext i hi
  simp
  grind

theorem lowByte_word (high low : UInt8) : lowByte (word high low) = low := by
  apply UInt8.toBitVec_inj.1
  simp only [word, lowByte, UInt16.toBitVec_or, UInt16.toBitVec_shiftLeft,
    UInt8.toBitVec_toUInt16, UInt16.toBitVec_toUInt8]
  ext i hi
  simp

@[simp] theorem length_wordBytes (w : UInt16) : (wordBytes w).length = 2 := rfl

theorem top_bit_iff (w : UInt16) : (w &&& 0x8000 != 0) = true ↔ 0x8000 ≤ w := by
  have hw := w.toNat_lt
  have hand : w.toNat &&& 2 ^ 15 = (w.toNat.testBit 15).toNat * 2 ^ 15 := Nat.and_two_pow _ _
  rw [bne_iff_ne, ne_eq, ← UInt16.toNat_inj, UInt16.le_iff_toNat_le, UInt16.toNat_and]
  change ¬(w.toNat &&& 2 ^ 15 = 0) ↔ 2 ^ 15 ≤ w.toNat
  rw [hand, Nat.testBit_eq_decide_div_mod_eq]
  by_cases h : w.toNat / 2 ^ 15 % 2 = 1
  · simp only [h, decide_true, Bool.toNat_true]
    omega
  · simp only [h, decide_false, Bool.toNat_false]
    omega

namespace Memory

/-! ## Reading -/

theorem read8_eq_ok_iff (m : Memory) (a : Nat) (b : UInt8) :
    m.read8 a = .ok b ↔ m.bytes[a]? = some b := by
  unfold read8
  by_cases h : a < m.bytes.size
  · simp [h]
  · simp [h]

theorem read16_eq_ok_iff (m : Memory) (a : Nat) (w : UInt16) :
    m.read16 a = .ok w ↔
      ∃ high low, m.bytes[a]? = some high ∧ m.bytes[a + 1]? = some low ∧ word high low = w := by
  unfold read16
  by_cases h : a + 1 < m.bytes.size
  · have h0 : a < m.bytes.size := by omega
    simp [h, h0]
  · simp [h]

theorem read8_of_lt (m : Memory) (a : Nat) (h : a < m.size) : ∃ b, m.read8 a = .ok b :=
  ⟨_, dif_pos h⟩

theorem read16_of_lt (m : Memory) (a : Nat) (h : a + 1 < m.size) : ∃ w, m.read16 a = .ok w :=
  ⟨_, dif_pos h⟩

theorem lt_size_of_read16 {m : Memory} {a : Nat} {w : UInt16} (h : m.read16 a = .ok w) :
    a + 1 < m.size := by
  unfold read16 at h
  split at h
  · next hroom => exact hroom
  · cases h

theorem length_of_readBytes {m : Memory} {a n : Nat} {bytes : List UInt8}
    (h : m.readBytes a n = .ok bytes) : bytes.length = n := by
  unfold readBytes at h
  by_cases hroom : a + n ≤ m.size
  · rw [if_pos hroom] at h
    obtain rfl := Except.ok.inj h
    unfold size at hroom
    rw [Array.length_toList, Array.size_extract]
    omega
  · rw [if_neg hroom] at h
    cases h

/-! ## Writing -/

theorem getElem?_set8 (m : Memory) (a k : Nat) (v : UInt8) :
    (m.set8 a v).bytes[k]? = if a = k ∧ a < m.size then some v else m.bytes[k]? := by
  simp only [set8, Array.getElem?_setIfInBounds, size]
  by_cases h : a = k
  · subst h
    by_cases hs : a < m.bytes.size
    · simp [hs]
    · simp [hs]
  · simp [h]

theorem getElem?_setBytes_outside (m : Memory) (a k : Nat) (data : List UInt8)
    (h : k < a ∨ a + data.length ≤ k) : (m.setBytes a data).bytes[k]? = m.bytes[k]? := by
  induction data generalizing m a with
  | nil => rfl
  | cons b rest ih =>
    simp only [List.length_cons] at h
    rw [setBytes, ih _ _ (by omega), getElem?_set8, if_neg (by omega)]

theorem getElem?_setBytes_inside (m : Memory) (a i : Nat) (data : List UInt8)
    (hi : i < data.length) (hs : a + data.length ≤ m.size) :
    (m.setBytes a data).bytes[a + i]? = data[i]? := by
  induction data generalizing m a i with
  | nil => simp at hi
  | cons b rest ih =>
    simp only [List.length_cons] at hi hs
    rw [setBytes]
    cases i with
    | zero =>
      rw [getElem?_setBytes_outside _ _ _ _ (by omega), getElem?_set8, if_pos (by omega)]
      rfl
    | succ i =>
      rw [show a + (i + 1) = a + 1 + i by omega, ih _ _ _ (by omega) (by simp; omega)]
      rfl

theorem setBytes_append (m : Memory) (a : Nat) (front back : List UInt8) :
    m.setBytes a (front ++ back) = (m.setBytes a front).setBytes (a + front.length) back := by
  induction front generalizing m a with
  | nil => rfl
  | cons b rest ih =>
    rw [List.cons_append, setBytes, ih, setBytes, List.length_cons, Nat.add_right_comm, Nat.add_assoc]

/-- A byte is written only inside the memory. -/
theorem write8_eq_ok {m m' : Memory} {a : Nat} {v : UInt8} (h : write8 a v m = .ok () m') :
    a < m.size ∧ m' = m.setBytes a [v] := by
  unfold write8 at h
  by_cases hroom : a < m.size
  · rw [if_pos hroom] at h
    cases h
    exact ⟨hroom, rfl⟩
  · rw [if_neg hroom] at h
    cases h

/-- A word is written only inside the memory. -/
theorem write16_eq_ok {m m' : Memory} {a : Nat} {w : UInt16} (h : write16 a w m = .ok () m') :
    a + 1 < m.size ∧ m' = m.setBytes a (wordBytes w) := by
  unfold write16 at h
  by_cases hroom : a + 1 < m.size
  · rw [if_pos hroom] at h
    cases h
    exact ⟨hroom, rfl⟩
  · rw [if_neg hroom] at h
    cases h

/-- Bytes are written only inside the memory. -/
theorem writeBytes_eq_ok {m m' : Memory} {a : Nat} {data : List UInt8}
    (h : writeBytes a data m = .ok () m') :
    a + data.length ≤ m.size ∧ m' = m.setBytes a data := by
  unfold writeBytes at h
  by_cases hroom : a + data.length ≤ m.size
  · rw [if_pos hroom] at h
    cases h
    exact ⟨hroom, rfl⟩
  · rw [if_neg hroom] at h
    cases h

/-- A word that was written is read back. -/
theorem read16_setBytes_self (m : Memory) (a : Nat) (w : UInt16) (h : a + 1 < m.size) :
    (m.setBytes a (wordBytes w)).read16 a = .ok w := by
  rw [read16_eq_ok_iff]
  refine ⟨highByte w, lowByte w, ?_, ?_, word_wordBytes w⟩
  · exact getElem?_setBytes_inside m a 0 (wordBytes w) (by simp) (by simp; omega)
  · exact getElem?_setBytes_inside m a 1 (wordBytes w) (by simp) (by simp; omega)

/-! ## Memories that agree -/

/-- The same bytes from `start` to before `stop`. -/
def Agree (m m' : Memory) (start stop : Nat) : Prop :=
  ∀ k, start ≤ k → k < stop → m'.bytes[k]? = m.bytes[k]?

namespace Agree

instance (m m' : Memory) (start stop : Nat) : Decidable (Agree m m' start stop) :=
  decidable_of_iff (∀ k, k < stop → start ≤ k → m'.bytes[k]? = m.bytes[k]?)
    ⟨fun h k h1 h2 => h k h2 h1, fun h k h1 h2 => h k h2 h1⟩

theorem refl (m : Memory) (start stop : Nat) : Agree m m start stop :=
  fun _ _ _ => rfl

theorem symm {m m' : Memory} {start stop : Nat} (h : Agree m m' start stop) :
    Agree m' m start stop :=
  fun k h1 h2 => (h k h1 h2).symm

theorem trans {m m' m'' : Memory} {start stop : Nat} (h : Agree m m' start stop)
    (h' : Agree m' m'' start stop) : Agree m m'' start stop :=
  fun k h1 h2 => (h' k h1 h2).trans (h k h1 h2)

theorem mono {m m' : Memory} {start stop a b : Nat} (h : Agree m m' start stop)
    (ha : start ≤ a) (hb : b ≤ stop) : Agree m m' a b :=
  fun k h1 h2 => h k (by omega) (by omega)

theorem read8 {m m' : Memory} {start stop a : Nat} {b : UInt8} (h : Agree m m' start stop)
    (ha : start ≤ a) (hb : a < stop) (hr : m.read8 a = .ok b) : m'.read8 a = .ok b := by
  rw [read8_eq_ok_iff] at hr ⊢
  rw [h a ha hb, hr]

theorem read16 {m m' : Memory} {start stop a : Nat} {w : UInt16} (h : Agree m m' start stop)
    (ha : start ≤ a) (hb : a + 1 < stop) (hr : m.read16 a = .ok w) : m'.read16 a = .ok w := by
  rw [read16_eq_ok_iff] at hr ⊢
  obtain ⟨high, low, h0, h1, hw⟩ := hr
  exact ⟨high, low, by rw [h a ha (by omega), h0], by rw [h (a + 1) (by omega) hb, h1], hw⟩

end Agree

/-- Two memories of one size that agree on a byte answer a reading of it alike, faults included. -/
theorem read8_congr {m m' : Memory} {a : Nat} (hs : m'.size = m.size)
    (h : m'.bytes[a]? = m.bytes[a]?) : m'.read8 a = m.read8 a := by
  cases hr : m.read8 a with
  | ok b =>
    rw [read8_eq_ok_iff] at hr ⊢
    rw [h, hr]
  | error e =>
    unfold read8 at hr ⊢
    simp only [hs]
    simp only [size] at hs
    by_cases hk : a < m.bytes.size
    · simp [hk] at hr
    · simpa [hs, hk] using hr

/-- Two memories of one size that agree on a word answer a reading of it alike, faults included. -/
theorem Agree.read16_eq {m m' : Memory} {a : Nat} (h : Agree m m' a (a + 2))
    (hs : m'.size = m.size) : m'.read16 a = m.read16 a := by
  cases hr : m.read16 a with
  | ok w => exact h.read16 (Nat.le_refl a) (by omega) hr
  | error e =>
    unfold Memory.read16 at hr ⊢
    simp only [hs]
    simp only [size] at hs
    by_cases hk : a + 1 < m.bytes.size
    · simp [hk] at hr
    · simpa [hs, hk] using hr

/-- Two memories of one size that agree on some bytes answer a reading of them alike, faults
included. -/
theorem Agree.readBytes_eq {m m' : Memory} {a n : Nat} (h : Agree m m' a (a + n))
    (hs : m'.size = m.size) : m'.readBytes a n = m.readBytes a n := by
  unfold Memory.readBytes
  rw [hs]
  by_cases hroom : a + n ≤ m.size
  · rw [if_pos hroom, if_pos hroom]
    congr 2
    apply Array.ext_getElem?
    intro i
    have hsize : m'.bytes.size = m.bytes.size := hs
    rw [Array.getElem?_extract, Array.getElem?_extract, hsize]
    split
    · exact h (a + i) (Nat.le_add_right a i) (by omega)
    · rfl
  · rw [if_neg hroom, if_neg hroom]

/-- Written bytes leave all that lies apart from them. -/
theorem agree_setBytes (m : Memory) {a start stop : Nat} (data : List UInt8)
    (h : stop ≤ a ∨ a + data.length ≤ start) : Agree m (m.setBytes a data) start stop :=
  fun k _ _ => getElem?_setBytes_outside m a k data (by omega)

/-- A word that does not meet the written bytes is read as before. -/
theorem read16_setBytes_of_disjoint (m : Memory) (a k : Nat) (data : List UInt8)
    (h : k + 1 < a ∨ a + data.length ≤ k) : (m.setBytes a data).read16 k = m.read16 k := by
  have ha : Agree m (m.setBytes a data) k (k + 2) := m.agree_setBytes data (by omega)
  exact ha.read16_eq (size_setBytes m a data)

/-! ## Bytes in a row -/

/-- The memory holds these bytes from an address on. -/
def Holds (m : Memory) (a : Nat) (bytes : List UInt8) : Prop :=
  ∀ i < bytes.length, m.bytes[a + i]? = bytes[i]?

theorem holds_nil (m : Memory) (a : Nat) : m.Holds a [] :=
  fun _ h => absurd h (Nat.not_lt_zero _)

theorem holds_append (m : Memory) (a : Nat) (front back : List UInt8) :
    m.Holds a (front ++ back) ↔ m.Holds a front ∧ m.Holds (a + front.length) back := by
  constructor
  · intro h
    refine ⟨fun i hi => ?_, fun i hi => ?_⟩
    · have hbyte := h i (by rw [List.length_append]; omega)
      rwa [List.getElem?_append_left hi] at hbyte
    · have hbyte := h (front.length + i) (by rw [List.length_append]; omega)
      rw [List.getElem?_append_right (Nat.le_add_right _ _), Nat.add_sub_cancel_left] at hbyte
      rw [Nat.add_assoc, hbyte]
  · rintro ⟨hfront, hback⟩ i hi
    rw [List.length_append] at hi
    by_cases hlt : i < front.length
    · rw [List.getElem?_append_left hlt, hfront i hlt]
    · have hbyte := hback (i - front.length) (by omega)
      rw [List.getElem?_append_right (by omega), ← hbyte]
      congr 1
      omega

theorem holds_singleton (m : Memory) (a : Nat) (b : UInt8) :
    m.Holds a [b] ↔ m.read8 a = .ok b := by
  rw [read8_eq_ok_iff]
  constructor
  · exact fun h => h 0 Nat.one_pos
  · intro h i hi
    obtain rfl : i = 0 := Nat.lt_one_iff.1 hi
    exact h

theorem holds_cons (m : Memory) (a : Nat) (b : UInt8) (bytes : List UInt8) :
    m.Holds a (b :: bytes) ↔ m.read8 a = .ok b ∧ m.Holds (a + 1) bytes := by
  rw [← m.holds_singleton]
  exact m.holds_append a [b] bytes

theorem holds_wordBytes (m : Memory) (a : Nat) (w : UInt16) :
    m.Holds a (wordBytes w) ↔ m.read16 a = .ok w := by
  rw [read16_eq_ok_iff, wordBytes, holds_cons, holds_singleton, read8_eq_ok_iff, read8_eq_ok_iff]
  constructor
  · rintro ⟨hhigh, hlow⟩
    exact ⟨_, _, hhigh, hlow, word_wordBytes w⟩
  · rintro ⟨high, low, hhigh, hlow, rfl⟩
    rw [highByte_word, lowByte_word]
    exact ⟨hhigh, hlow⟩

theorem holds_setBytes {m : Memory} {a : Nat} {data : List UInt8}
    (h : a + data.length ≤ m.size) : (m.setBytes a data).Holds a data :=
  fun i hi => m.getElem?_setBytes_inside a i data hi h

/-- Bytes that a memory holds are read as a whole. -/
theorem Holds.readBytes_eq {m : Memory} {a : Nat} {bytes : List UInt8} (h : m.Holds a bytes)
    (hroom : a + bytes.length ≤ m.size) : m.readBytes a bytes.length = .ok bytes := by
  unfold readBytes
  rw [if_pos hroom]
  congr 1
  apply List.ext_getElem?
  intro i
  unfold size at hroom
  rw [Array.getElem?_toList, Array.getElem?_extract, Nat.min_eq_left hroom, Nat.add_sub_cancel_left]
  split
  · next hi => exact h i hi
  · next hi => rw [List.getElem?_eq_none (Nat.le_of_not_lt hi)]

theorem Holds.agree {m m' : Memory} {a stop : Nat} {bytes : List UInt8} (h : m.Holds a bytes)
    (hstop : a + bytes.length ≤ stop) (hm : Agree m m' a stop) : m'.Holds a bytes := by
  intro i hi
  rw [hm (a + i) (Nat.le_add_right _ _) (by omega)]
  exact h i hi

theorem Holds.take {m : Memory} {a : Nat} {bytes : List UInt8} (h : m.Holds a bytes) (k : Nat) :
    m.Holds a (bytes.take k) := by
  intro i hi
  rw [List.length_take] at hi
  rw [List.getElem?_take_of_lt (by omega)]
  exact h i (by omega)

theorem Holds.drop {m : Memory} {a : Nat} {bytes : List UInt8} (h : m.Holds a bytes) (k : Nat) :
    m.Holds (a + k) (bytes.drop k) := by
  intro i hi
  rw [List.length_drop] at hi
  rw [List.getElem?_drop, Nat.add_assoc]
  exact h (k + i) (by omega)

theorem Holds.le_size {m : Memory} {a : Nat} {bytes : List UInt8} (h : m.Holds a bytes)
    (hbytes : bytes ≠ []) : a + bytes.length ≤ m.size := by
  have hpos := List.length_pos_iff.2 hbytes
  have hlast := h (bytes.length - 1) (by omega)
  rw [List.getElem?_eq_getElem (by omega)] at hlast
  have := (Array.getElem?_eq_some_iff.1 hlast).1
  unfold size
  omega

end Memory
end ZMachine
