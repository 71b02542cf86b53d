import Mathlib.Data.List.Pairwise
import ZMachine.Proofs.Execution.Setting
import ZMachine.Proofs.Memory

/-!
# Text in tables

A table that takes text holds the number of its bytes and then the bytes.  What is done with tables
is told by a ledger: which tables were opened, and which texts each of them got while it was
innermost.

    read16 address         the number of bytes, modulo 65536
    Holds (address + 2)    what is left of the texts

As long as no two tables have a byte in common, the memory and the streams are those of the ledger
after everything that is done.  The number of bytes tells where the next text goes.  So the texts
stand one after another while that number is a word; a text that comes after more bytes than a word
can tell is written over the first ones:

    remains texts = joined texts    ↔    Countable texts
-/

namespace ZMachine

namespace Capture

/-! ## Texts written over one another -/

/-- A list with the part of it from `place` on written over; it may grow. -/
def overlay (old : List UInt8) (place : Nat) (text : List UInt8) : List UInt8 :=
  old.take place ++ (text ++ old.drop (place + text.length))

theorem length_overlay {old : List UInt8} {place : Nat} (text : List UInt8)
    (h : place ≤ old.length) :
    (overlay old place text).length = max old.length (place + text.length) := by
  unfold overlay
  simp only [List.length_append, List.length_take, List.length_drop]
  omega

theorem overlay_length (old text : List UInt8) : overlay old old.length text = old ++ text := by
  unfold overlay
  rw [List.take_length, List.drop_eq_nil_of_le (Nat.le_add_right _ _), List.append_nil]

end Capture

open Capture in
/-- What a memory holds is written over where the bytes are written. -/
theorem Memory.Holds.overlay {m : Memory} {a place : Nat} {old : List UInt8} (h : m.Holds a old)
    (hplace : place ≤ old.length) (text : List UInt8)
    (hroom : a + place + text.length ≤ m.size) :
    (m.setBytes (a + place) text).Holds a (overlay old place text) := by
  have hlength : (old.take place).length = place := List.length_take_of_le hplace
  unfold Capture.overlay
  rw [Memory.holds_append, Memory.holds_append, hlength]
  refine ⟨?_, Memory.holds_setBytes hroom, ?_⟩
  · exact (h.take place).agree (Nat.le_of_eq (congrArg (a + ·) hlength))
      (m.agree_setBytes text (.inl (Nat.le_refl (a + place))))
  · have hrest := h.drop (place + text.length)
    rw [← Nat.add_assoc] at hrest
    exact hrest.agree (Nat.le_refl _) (m.agree_setBytes text (.inr (Nat.le_refl _)))

namespace Capture

/-- All texts in the order they were written, the newest of them given first. -/
def joined : List (List UInt8) → List UInt8
  | [] => []
  | text :: earlier => joined earlier ++ text

/-- What is left of the texts when the place of each is the number of bytes before it as a word. -/
def remains : List (List UInt8) → List UInt8
  | [] => []
  | text :: earlier => overlay (remains earlier) ((joined earlier).length % 65536) text

/-- Whether each text began where a word can tell. -/
def Countable : List (List UInt8) → Prop
  | [] => True
  | text :: earlier => Countable earlier ∧ (text ≠ [] → (joined earlier).length < 65536)

/-- As much is left as a word can tell places for. -/
theorem length_remains (texts : List (List UInt8)) :
    min (joined texts).length 65536 ≤ (remains texts).length ∧
      (remains texts).length ≤ (joined texts).length := by
  induction texts with
  | nil => exact ⟨Nat.min_le_left _ _, Nat.le_refl _⟩
  | cons text earlier ih =>
    have hplace : (joined earlier).length % 65536 ≤ (remains earlier).length := by omega
    rw [remains, joined, length_overlay text hplace, List.length_append]
    omega

theorem place_le_length_remains (texts : List (List UInt8)) :
    (joined texts).length % 65536 ≤ (remains texts).length := by
  have := length_remains texts
  omega

theorem remains_of_countable {texts : List (List UInt8)} (h : Countable texts) :
    remains texts = joined texts := by
  induction texts with
  | nil => rfl
  | cons text earlier ih =>
    obtain ⟨hearlier, hbegin⟩ := h
    rw [remains, joined, ih hearlier]
    by_cases htext : text = []
    · subst htext
      unfold overlay
      simp
    · rw [Nat.mod_eq_of_lt (hbegin htext), overlay_length]

/-- A text that began where no word can tell is written over others, and bytes are lost. -/
theorem length_remains_lt {texts : List (List UInt8)} (h : ¬ Countable texts) :
    65536 ≤ (joined texts).length ∧ (remains texts).length < (joined texts).length := by
  induction texts with
  | nil => exact absurd trivial h
  | cons text earlier ih =>
    have hlength := length_remains earlier
    rw [remains, joined, length_overlay text (place_le_length_remains earlier),
      List.length_append]
    by_cases hearlier : Countable earlier
    · have hbegin : ¬ (text ≠ [] → (joined earlier).length < 65536) :=
        fun hb => h ⟨hearlier, hb⟩
      rw [Classical.not_imp] at hbegin
      have := List.length_pos_iff.2 hbegin.1
      omega
    · have := ih hearlier
      omega

theorem remains_eq_iff (texts : List (List UInt8)) :
    remains texts = joined texts ↔ Countable texts := by
  constructor
  · intro h
    by_contra hnot
    have hlt := (length_remains_lt hnot).2
    rw [h] at hlt
    exact Nat.lt_irrefl _ hlt
  · exact remains_of_countable

theorem countable_of_length {texts : List (List UInt8)} (h : (joined texts).length ≤ 65536) :
    Countable texts := by
  by_contra hnot
  have hlow := (length_remains texts).1
  have hlt := length_remains_lt hnot
  omega

end Capture

/-! ## Tables -/

/-- What is done with the tables: one is opened, text is written into the innermost one, or that one
is closed. -/
inductive Redirection
  | opening (address : UInt32)
  | writing (text : List UInt8)
  | closing

/-- A table that was opened, and the texts written while it was innermost, the newest first. -/
structure Capture where
  address : UInt32
  texts : List (List UInt8) := []
deriving DecidableEq

namespace Capture

/-- All bytes that were written, in order. -/
def bytes (t : Capture) : List UInt8 :=
  joined t.texts

/-- The number of bytes as a word. -/
def count (t : Capture) : UInt16 :=
  .ofNat t.bytes.length

/-- The table after a text was written into it. -/
def add (t : Capture) (text : List UInt8) : Capture :=
  { t with texts := text :: t.texts }

/-- The address after the table. -/
def stop (t : Capture) : Nat :=
  t.address.toNat + 2 + t.bytes.length

/-- Whether two tables have no byte in common. -/
def Apart (t u : Capture) : Prop :=
  t.stop ≤ u.address.toNat ∨ u.stop ≤ t.address.toNat

instance (t u : Capture) : Decidable (t.Apart u) :=
  inferInstanceAs (Decidable (_ ∨ _))

/-- A memory holds a table: the number of its bytes, and what is left of them after it. -/
structure Stands (t : Capture) (m : Memory) : Prop where
  counted : m.read16 t.address.toNat = .ok t.count
  holds : m.Holds (t.address.toNat + 2) (remains t.texts)

theorem Apart.symm {t u : Capture} (h : t.Apart u) : u.Apart t :=
  Or.symm h

theorem length_remains_le (t : Capture) : (remains t.texts).length ≤ t.bytes.length :=
  (length_remains t.texts).2

/-- A table stands as long as its bytes stay. -/
theorem Stands.agree {t : Capture} {m m' : Memory} (h : t.Stands m)
    (hm : Memory.Agree m m' t.address.toNat t.stop) : t.Stands m' := by
  have hleft := t.length_remains_le
  unfold stop at hm
  constructor
  · exact hm.read16 (Nat.le_refl _) (by omega) h.counted
  · exact h.holds.agree (by omega) (hm.mono (by omega) (Nat.le_refl _))

/-- What is written into a table leaves the tables apart from it. -/
theorem Stands.setBytes {t u : Capture} {m : Memory} (h : t.Stands m) (hapart : t.Apart u) {a : Nat}
    {data : List UInt8} (hstart : u.address.toNat ≤ a) (hstop : a + data.length ≤ u.stop) :
    t.Stands (m.setBytes a data) := by
  refine h.agree (m.agree_setBytes data ?_)
  obtain h1 | h2 := hapart
  · exact .inl (by omega)
  · exact .inr (by omega)

end Capture

/-- The tables that were opened: the open ones, the innermost first, and those that were closed. -/
structure Ledger where
  active : List Capture := []
  closed : List Capture := []

namespace Ledger

def tables (l : Ledger) : List Capture :=
  l.active ++ l.closed

/-- The ledger after something was done. -/
def record (l : Ledger) : Redirection → Ledger
  | .opening address => { l with active := ⟨address, []⟩ :: l.active }
  | .writing text =>
    match l.active with
    | [] => l
    | t :: outer => { l with active := t.add text :: outer }
  | .closing =>
    match l.active with
    | [] => l
    | t :: outer => ⟨outer, t :: l.closed⟩

/-- Whether no two tables have a byte in common. -/
def Apart (l : Ledger) : Prop :=
  l.tables.Pairwise Capture.Apart

instance (l : Ledger) : Decidable l.Apart :=
  inferInstanceAs (Decidable (List.Pairwise _ _))

/-- The streams of a machine and its memory are those of the ledger. -/
structure Stands (l : Ledger) (s : Machine) : Prop where
  streams : s.streams.tables = l.active.map fun t => ⟨t.address, t.count⟩
  tables : ∀ t ∈ l.tables, t.Stands s.memory

end Ledger

namespace Redirection

def perform : Redirection → MachineM Unit
  | opening address => Machine.selectStream 3 address
  | writing text => Machine.writeTable text
  | closing => Machine.selectStream (-3) 0

/-- One thing after the other. -/
def performAll : List Redirection → MachineM Unit
  | [] => return
  | r :: rest => do
    r.perform
    performAll rest

end Redirection

namespace Machine

theorem selectStream_open_eq_ok {address : UInt32} {s s' : Machine}
    (h : selectStream 3 address s = .ok () s') :
    address.toNat + 1 < s.memory.size ∧ s' = { s with
      memory := s.memory.setBytes address.toNat (wordBytes 0)
      streams.tables := ⟨address, 0⟩ :: s.streams.tables } := by
  unfold selectStream at h
  rw [get_bind, if_neg (by decide), if_neg (by decide), if_pos rfl] at h
  split at h
  · cases h
  · obtain ⟨⟨⟩, s₁, hzero, hrest⟩ := bind_eq_ok h
    obtain ⟨m, hm, rfl⟩ := onMemory_eq_ok hzero
    obtain ⟨hroom, rfl⟩ := Memory.write16_eq_ok hm
    cases hrest
    exact ⟨hroom, rfl⟩

theorem selectStream_close_eq_ok {table : UInt32} {s s' : Machine}
    (h : selectStream (-3) table s = .ok () s') :
    match s.streams.tables with
    | [] => s' = s
    | t :: outer => t.address.toNat + 1 < s.memory.size ∧ s' = { s with
        memory := s.memory.setBytes t.address.toNat (wordBytes t.written)
        streams.tables := outer } := by
  unfold selectStream at h
  rw [get_bind, if_neg (by decide), if_neg (by decide), if_neg (by decide), if_pos rfl] at h
  cases htables : s.streams.tables with
  | nil =>
    rw [htables] at h
    cases h
    rfl
  | cons t outer =>
    rw [htables] at h
    obtain ⟨⟨⟩, s₁, hset, hword⟩ := bind_eq_ok h
    cases hset
    obtain ⟨m, hm, rfl⟩ := onMemory_eq_ok hword
    obtain ⟨hroom, rfl⟩ := Memory.write16_eq_ok hm
    exact ⟨hroom, rfl⟩

theorem writeTable_eq_ok {text : List UInt8} {s s' : Machine} (h : writeTable text s = .ok () s') :
    match s.streams.tables with
    | [] => s' = s
    | t :: outer =>
      let place := t.address.toNat + 2 + t.written.toNat
      let written := t.written + .ofNat text.length
      place + text.length ≤ s.memory.size ∧ s' = { s with
        memory := (s.memory.setBytes place text).setBytes t.address.toNat (wordBytes written)
        streams.tables := ⟨t.address, written⟩ :: outer } := by
  unfold writeTable at h
  rw [get_bind] at h
  cases htables : s.streams.tables with
  | nil =>
    rw [htables] at h
    cases h
    rfl
  | cons t outer =>
    rw [htables] at h
    obtain ⟨⟨⟩, s₁, htext, hrest⟩ := bind_eq_ok h
    obtain ⟨m, hm, rfl⟩ := onMemory_eq_ok htext
    obtain ⟨hroom, rfl⟩ := Memory.writeBytes_eq_ok hm
    obtain ⟨⟨⟩, s₂, hset, hword⟩ := bind_eq_ok hrest
    cases hset
    obtain ⟨m, hm, rfl⟩ := onMemory_eq_ok hword
    obtain ⟨-, rfl⟩ := Memory.write16_eq_ok hm
    exact ⟨hroom, rfl⟩

theorem selectStream_open_of_lt (address : UInt32) {s : Machine}
    (hdepth : s.streams.tables.length < OutputStreams.maxTables)
    (hroom : address.toNat + 1 < s.memory.size) :
    selectStream 3 address s = .ok () { s with
      memory := s.memory.setBytes address.toNat (wordBytes 0)
      streams.tables := ⟨address, 0⟩ :: s.streams.tables } := by
  have hzero : onMemory (Memory.write16 address.toNat 0) s =
      .ok () { s with memory := s.memory.setBytes address.toNat (wordBytes 0) } := by
    rw [onMemory_run, Memory.write16, if_pos hroom]
  unfold selectStream
  rw [get_bind, if_neg (by decide), if_neg (by decide), if_pos rfl, if_neg (Nat.not_le.2 hdepth)]
  exact bind_ok hzero

/-- Text that has room is written. -/
theorem writeTable_of_le (text : List UInt8) {s : Machine} {t : TableStream}
    {outer : List TableStream} (htables : s.streams.tables = t :: outer)
    (hroom : t.address.toNat + 2 + t.written.toNat + text.length ≤ s.memory.size) :
    ∃ s', writeTable text s = .ok () s' ∧
      s'.streams.tables = ⟨t.address, t.written + .ofNat text.length⟩ :: outer ∧
      s'.memory.size = s.memory.size := by
  have htext : onMemory (Memory.writeBytes (t.address.toNat + 2 + t.written.toNat) text) s =
      .ok () { s with
        memory := s.memory.setBytes (t.address.toNat + 2 + t.written.toNat) text } := by
    rw [onMemory_run, Memory.writeBytes, if_pos hroom]
  have hword (s' : Machine) (hsize : s'.memory.size = s.memory.size) (w : UInt16) :
      onMemory (Memory.write16 t.address.toNat w) s' =
        .ok () { s' with memory := s'.memory.setBytes t.address.toNat (wordBytes w) } := by
    rw [onMemory_run, Memory.write16, if_pos (by omega)]
  have hsize := Memory.size_setBytes s.memory (t.address.toNat + 2 + t.written.toNat) text
  unfold writeTable
  rw [get_bind, htables]
  have hlast := hword { s with
    memory := s.memory.setBytes (t.address.toNat + 2 + t.written.toNat) text
    streams.tables := ⟨t.address, t.written + .ofNat text.length⟩ :: outer } hsize
  exact ⟨_, (bind_ok htext).trans (hlast _), rfl, (Memory.size_setBytes _ _ _).trans hsize⟩

end Machine

namespace Capture

theorem length_bytes_add (t : Capture) (text : List UInt8) :
    (t.add text).bytes.length = t.bytes.length + text.length :=
  List.length_append

theorem count_add (t : Capture) (text : List UInt8) :
    (t.add text).count = t.count + .ofNat text.length := by
  unfold count
  rw [length_bytes_add, UInt16.ofNat_add]

theorem toNat_count (t : Capture) : t.count.toNat = t.bytes.length % 65536 :=
  UInt16.toNat_ofNat'

/-- A table that has not grown yet is apart from what the grown one is apart from. -/
theorem Apart.of_add {t u : Capture} {text : List UInt8} (h : (t.add text).Apart u) :
    t.Apart u := by
  have hlength := t.length_bytes_add text
  unfold Apart stop at h ⊢
  rw [hlength] at h
  have haddress : (t.add text).address = t.address := rfl
  rw [haddress] at h
  omega

/-- A new table stands. -/
theorem stands_new {m : Memory} {address : UInt32} (hroom : address.toNat + 1 < m.size) :
    Stands ⟨address, []⟩ (m.setBytes address.toNat (wordBytes 0)) where
  counted := m.read16_setBytes_self _ _ hroom
  holds := Memory.holds_nil _ _

/-- A table stands after its count was written once more. -/
theorem Stands.recount {t : Capture} {m : Memory} (h : t.Stands m) :
    t.Stands (m.setBytes t.address.toNat (wordBytes t.count)) where
  counted := m.read16_setBytes_self _ _ (Memory.lt_size_of_read16 h.counted)
  holds := h.holds.agree (Nat.le_refl _)
    (m.agree_setBytes (wordBytes t.count) (.inr (Nat.le_refl (t.address.toNat + 2))))

/-- A text is written after the others, or over them where their number is no word. -/
theorem Stands.add {t : Capture} {m : Memory} (h : t.Stands m) (text : List UInt8)
    (hroom : t.address.toNat + 2 + t.count.toNat + text.length ≤ m.size) :
    (t.add text).Stands ((m.setBytes (t.address.toNat + 2 + t.count.toNat) text).setBytes
      t.address.toNat (wordBytes (t.add text).count)) where
  counted := by
    refine Memory.read16_setBytes_self _ _ _ ?_
    rw [Memory.size_setBytes]
    exact Memory.lt_size_of_read16 h.counted
  holds := by
    have hplace : t.count.toNat = (joined t.texts).length % 65536 := t.toNat_count
    have hover := h.holds.overlay (place_le_length_remains t.texts) text
      (by rw [← hplace]; exact hroom)
    rw [← hplace] at hover
    have hleft : remains (t.add text).texts = overlay (remains t.texts) t.count.toNat text := by
      rw [hplace]
      rfl
    rw [← hleft] at hover
    exact hover.agree (Nat.le_refl _)
      (Memory.agree_setBytes _ (wordBytes (t.add text).count)
        (.inr (Nat.le_refl (t.address.toNat + 2))))

end Capture

namespace Ledger

variable {l : Ledger} {s s' : Machine}

theorem Apart.of_record {r : Redirection} (h : (l.record r).Apart) : l.Apart := by
  obtain ⟨active, closed⟩ := l
  cases r with
  | opening address => exact (List.pairwise_cons.1 h).2
  | writing text =>
    cases active with
    | nil => exact h
    | cons t outer =>
      obtain ⟨hfirst, hrest⟩ := List.pairwise_cons.1 h
      exact List.pairwise_cons.2 ⟨fun u hu => (hfirst u hu).of_add, hrest⟩
  | closing =>
    cases active with
    | nil => exact h
    | cons t outer =>
      exact (List.perm_middle.pairwise_iff Capture.Apart.symm).1 h

/-- What is done with the tables is what the ledger records, as long as the tables stay apart. -/
theorem Stands.perform {r : Redirection} (h : l.Stands s) (hrun : r.perform s = .ok () s')
    (hapart : (l.record r).Apart) : (l.record r).Stands s' := by
  obtain ⟨active, closed⟩ := l
  obtain ⟨hstreams, htables⟩ := h
  cases r with
  | opening address =>
    obtain ⟨hroom, rfl⟩ := Machine.selectStream_open_eq_ok hrun
    obtain ⟨hnew, -⟩ := List.pairwise_cons.1 hapart
    refine ⟨congrArg (_ :: ·) hstreams, fun u hu => ?_⟩
    obtain rfl | hu := List.mem_cons.1 hu
    · exact Capture.stands_new hroom
    · exact (htables u hu).setBytes (hnew u hu).symm (Nat.le_refl _) (Nat.le_refl _)
  | writing text =>
    have hwrite := Machine.writeTable_eq_ok hrun
    rw [hstreams] at hwrite
    cases active with
    | nil =>
      obtain rfl := hwrite
      exact ⟨hstreams, htables⟩
    | cons t outer =>
      obtain ⟨hroom, rfl⟩ := hwrite
      obtain ⟨hfirst, -⟩ := List.pairwise_cons.1 hapart
      dsimp only at hroom ⊢
      rw [← t.count_add text]
      refine ⟨rfl, fun u hu => ?_⟩
      obtain rfl | hu := List.mem_cons.1 hu
      · exact (htables t List.mem_cons_self).add text hroom
      · have hstop : (t.add text).stop = t.stop + text.length := by
          unfold Capture.stop
          rw [t.length_bytes_add text, ← Nat.add_assoc]
          rfl
        have hcount := t.toNat_count
        have hstop' : t.stop = t.address.toNat + 2 + t.bytes.length := rfl
        have hu' := (hfirst u hu).symm
        have hbytes := (htables u (List.mem_cons_of_mem t hu)).setBytes hu'
          (show t.address.toNat ≤ t.address.toNat + 2 + t.count.toNat by omega)
          (show t.address.toNat + 2 + t.count.toNat + text.length ≤ (t.add text).stop by omega)
        refine hbytes.setBytes hu' (Nat.le_refl _) ?_
        show t.address.toNat + 2 ≤ _
        omega
  | closing =>
    have hclose := Machine.selectStream_close_eq_ok hrun
    rw [hstreams] at hclose
    cases active with
    | nil =>
      obtain rfl := hclose
      exact ⟨hstreams, htables⟩
    | cons t outer =>
      obtain ⟨-, rfl⟩ := hclose
      have hperm : (outer ++ t :: closed).Perm (t :: (outer ++ closed)) := List.perm_middle
      obtain ⟨hfirst, -⟩ :=
        List.pairwise_cons.1 ((hperm.pairwise_iff Capture.Apart.symm).1 hapart)
      refine ⟨rfl, fun u hu => ?_⟩
      obtain rfl | hu' := List.mem_cons.1 (hperm.mem_iff.1 hu)
      · exact (htables _ List.mem_cons_self).recount
      · have hu := htables u (List.mem_cons_of_mem t hu')
        refine hu.setBytes (hfirst u hu').symm (Nat.le_refl _) ?_
        unfold Capture.stop
        exact Nat.le_add_right _ _

/-- The ledger after several things were done. -/
def recordAll (l : Ledger) (rs : List Redirection) : Ledger :=
  rs.foldl record l

theorem Apart.of_recordAll {l : Ledger} (rs : List Redirection) (h : (l.recordAll rs).Apart) :
    l.Apart := by
  induction rs generalizing l with
  | nil => exact h
  | cons r rest ih => exact (ih h).of_record

theorem Stands.performAll {l : Ledger} {s s' : Machine} {rs : List Redirection} (h : l.Stands s)
    (hrun : Redirection.performAll rs s = .ok () s') (hapart : (l.recordAll rs).Apart) :
    (l.recordAll rs).Stands s' := by
  induction rs generalizing l s with
  | nil =>
    cases hrun
    exact h
  | cons r rest ih =>
    obtain ⟨⟨⟩, s₁, hfirst, hrest⟩ := bind_eq_ok hrun
    have hone : (l.record r).Apart := Apart.of_recordAll rest hapart
    exact ih (h.perform hfirst hone) hrest hapart

/-- No table was opened yet. -/
theorem stands_empty {s : Machine} (h : s.streams.tables = []) : Stands {} s where
  streams := h
  tables := fun t ht => by cases ht

end Ledger

/-- After whatever was done with tables that have no byte in common, each table that was opened
holds the number of bytes that were written into it, modulo 65536, and after it what is left of
them.  The number is right as long as it is a word.  All bytes are there, in order, just if no text
was written after more of them than a word can tell, and so whenever they are not more than 65536. -/
theorem tables_captured (rs : List Redirection) (s s' : Machine) (hstart : s.streams.tables = [])
    (hrun : Redirection.performAll rs s = .ok () s') (hapart : (Ledger.recordAll {} rs).Apart) :
    ∀ t ∈ (Ledger.recordAll {} rs).tables,
      s'.memory.read16 t.address.toNat = .ok t.count ∧
        (t.count.toNat = t.bytes.length ↔ t.bytes.length < 65536) ∧
        s'.memory.Holds (t.address.toNat + 2) (Capture.remains t.texts) ∧
        (Capture.remains t.texts = t.bytes ↔ Capture.Countable t.texts) ∧
        (t.bytes.length ≤ 65536 → Capture.Countable t.texts) := by
  intro t ht
  have hstands := ((Ledger.stands_empty hstart).performAll hrun hapart).tables t ht
  refine ⟨hstands.counted, ?_, hstands.holds, Capture.remains_eq_iff t.texts,
    Capture.countable_of_length⟩
  rw [t.toNat_count]
  omega

namespace Redirection

/-- A machine with so many bytes of memory, all 0, and no table. -/
def blank (size : Nat) : Machine where
  memory := ⟨Array.replicate size 0⟩
  header := default
  pc := 0
  story := ⟨#[]⟩

/-- Two bytes into a table, one into a table within, one more into the first. -/
def nested : List Redirection :=
  [.opening 2, .writing [1, 2], .opening 10, .writing [3], .closing, .writing [4], .closing]

end Redirection

open Redirection in
/-- The table within does not get what is written after it was closed. -/
theorem tables_captured_nested :
    ∃ s', (blank 16).streams.tables = [] ∧ performAll nested (blank 16) = .ok () s' ∧
      (Ledger.recordAll {} nested).Apart ∧
      s'.memory.read16 2 = .ok 3 ∧ s'.memory.Holds 4 [1, 2, 4] ∧
      s'.memory.read16 10 = .ok 1 ∧ s'.memory.Holds 12 [3] := by
  have hrun : performAll nested (blank 16) = .ok () (endState (performAll nested (blank 16))) :=
    eq_ok_of_fault? (by decide +kernel)
  have hapart : (Ledger.recordAll {} nested).Apart := by decide
  have hcaptured := tables_captured nested (blank 16) _ rfl hrun hapart
  obtain ⟨houter, -, houter', -, -⟩ := hcaptured ⟨2, [[4], [1, 2]]⟩ (by decide)
  obtain ⟨hinner, -, hinner', -, -⟩ := hcaptured ⟨10, [[3]]⟩ (by decide)
  exact ⟨_, rfl, hrun, hapart, houter, houter', hinner, hinner'⟩

open Redirection in
/-- Two texts that are written into one table, the second where the first ends as far as a word can
tell. -/
theorem completes_two (first second : List UInt8) {s : Machine} (hstart : s.streams.tables = [])
    (hfirst : 2 + first.length ≤ s.memory.size)
    (hsecond : 2 + first.length % 65536 + second.length ≤ s.memory.size) :
    ∃ s', performAll [.opening 0, .writing first, .writing second] s = .ok () s' := by
  have hopen := Machine.selectStream_open_of_lt 0 (s := s)
    (by rw [hstart]; exact Nat.zero_lt_succ _) (show 0 + 1 < _ by omega)
  have hsize₁ := s.memory.size_setBytes (UInt32.toNat 0) (wordBytes 0)
  obtain ⟨s₂, hwrite, htables, hsize₂⟩ := Machine.writeTable_of_le first
    (s := { s with
      memory := s.memory.setBytes (UInt32.toNat 0) (wordBytes 0)
      streams.tables := ⟨0, 0⟩ :: s.streams.tables }) rfl
    (show 0 + 2 + 0 + _ ≤ _ by rw [hsize₁]; omega)
  have hcount : (0 + UInt16.ofNat first.length).toNat = first.length % 65536 := by
    rw [UInt16.zero_add]
    exact UInt16.toNat_ofNat'
  obtain ⟨s₃, hwrite', -, -⟩ := Machine.writeTable_of_le second htables
    (show 0 + 2 + _ + _ ≤ _ by rw [hcount, hsize₂, hsize₁]; omega)
  exact ⟨s₃, (bind_ok hopen).trans ((bind_ok hwrite).trans (bind_ok hwrite'))⟩

open Redirection in
/-- What comes after 65536 bytes is written over the first ones: it is not always so that a table
holds all bytes. -/
theorem captured_not_always : ¬ ∀ (rs : List Redirection) (s s' : Machine),
    s.streams.tables = [] → performAll rs s = .ok () s' → (Ledger.recordAll {} rs).Apart →
    ∀ t ∈ (Ledger.recordAll {} rs).tables,
      (∃ n, s'.memory.read16 t.address.toNat = .ok n ∧ n.toNat = t.bytes.length) ∧
        s'.memory.Holds (t.address.toNat + 2) t.bytes := by
  intro h
  have hsize : (blank 65539).memory.size = 65539 := Array.size_replicate
  obtain ⟨first, hfirst⟩ : ∃ text, text = List.replicate 65536 (97 : UInt8) := ⟨_, rfl⟩
  have hlength : first.length = 65536 := hfirst ▸ List.length_replicate
  let t : Capture := ⟨0, [[98], first]⟩
  let done : List Redirection := [.opening 0, .writing first, .writing [98]]
  obtain ⟨s', hrun⟩ := completes_two first [98] (s := blank 65539) rfl (by omega)
    (show 2 + first.length % 65536 + 1 ≤ _ by omega)
  have hapart : (Ledger.recordAll {} done).Apart := List.pairwise_singleton _ _
  have hleft : s'.memory.Holds 2 (Capture.remains t.texts) :=
    (((Ledger.stands_empty rfl).performAll hrun hapart).tables t List.mem_cons_self).holds
  have hall : s'.memory.Holds 2 t.bytes :=
    (h done (blank 65539) s' rfl hrun hapart t List.mem_cons_self).2
  have hremains : Capture.remains t.texts = 98 :: first.drop 1 := by
    have hone : Capture.remains [first] = first :=
      Capture.remains_of_countable ⟨trivial, fun _ => Nat.zero_lt_succ _⟩
    show Capture.overlay (Capture.remains [first]) (first.length % 65536) [98] = _
    rw [hone, hlength]
    rfl
  have hbytes : t.bytes = first ++ [98] := rfl
  have hpos : 0 < first.length := by omega
  have h98 := hleft 0 (by rw [hremains]; exact Nat.zero_lt_succ _)
  have h97 := hall 0 (by rw [hbytes, List.length_append]; omega)
  rw [hremains, List.getElem?_cons_zero] at h98
  rw [h98, hbytes, List.getElem?_append_left hpos, hfirst, List.getElem?_replicate_of_lt (by omega)]
    at h97
  cases h97

end ZMachine
