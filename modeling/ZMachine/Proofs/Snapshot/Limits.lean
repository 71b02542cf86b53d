import ZMachine.Proofs.Snapshot.Container
import ZMachine.Proofs.Stack

/-!
# What is within its limits fits a save

The limits of the stack and of the output streams bound the lengths of their sections, and the size
of the memory bounds the length of its differences:

    (compress m story).length ≤ 2 * m.size
    s.Disciplined                              →   s.toJson.compactBytes.length < 2 ^ 32
    s.tables.length ≤ maxTables                →   s.toJson.compactBytes.length < 2 ^ 32

So a snapshot of at most 2 GiB with a stack and streams within their limits can be saved, and what is
shown of saves that fit holds for every machine of which `WithinLimits` is true.
-/

namespace ZMachine

/-! ## Texts of values -/

namespace Json

/-- A number below a power of ten has no more digits than its exponent says. -/
theorem length_utf8_repr_le {k n : Nat} (h : n < 10 ^ (k + 1)) : (utf8 n.repr).length ≤ k + 1 := by
  rw [utf8_eq, Nat.toList_repr]
  induction k generalizing n with
  | zero =>
    have hn : n < 10 := h
    rw [Nat.toDigits_eq_if (by decide), if_pos hn, List.flatMap_singleton,
      utf8EncodeChar_digitChar n hn]
    exact Nat.le_refl 1
  | succ k ih =>
    rw [Nat.toDigits_eq_if (by decide)]
    by_cases hn : n < 10
    · rw [if_pos hn, List.flatMap_singleton, utf8EncodeChar_digitChar n hn]
      exact Nat.succ_le_succ (Nat.zero_le _)
    · have hshort := @ih (n / 10) (by rw [Nat.pow_succ] at h; omega)
      rw [if_neg hn, List.flatMap_append, List.flatMap_singleton,
        utf8EncodeChar_digitChar (n % 10) (Nat.mod_lt n (by decide)), List.length_append]
      exact Nat.succ_le_succ hshort

/-- A number of 64 bits has at most 20 digits. -/
theorem length_spelled_nat_le {n : Nat} (h : n < UInt64.size) : (spelled (nat n)).length ≤ 20 :=
  length_utf8_repr_le (Nat.lt_trans h (by decide))

theorem length_spelledItems_le {items : List Json} {k : Nat}
    (h : ∀ item ∈ items, (spelled item).length ≤ k) :
    (spelledItems items).length ≤ items.length * (k + 1) + 1 := by
  induction items with
  | nil =>
    rw [spelledItems, List.length_nil, Nat.zero_mul]
    exact Nat.le_refl 1
  | cons item rest ih =>
    have hitem := h item List.mem_cons_self
    have hrest := ih (fun i hi => h i (List.mem_cons_of_mem _ hi))
    rw [List.length_cons, Nat.succ_mul]
    cases rest with
    | nil =>
      rw [spelledItems, List.length_append, List.length_singleton]
      omega
    | cons next rest =>
      rw [spelledItems, List.length_append, List.length_cons]
      omega

theorem length_spelledMembers_le {members : List (Option String × Json)} {j k : Nat}
    (h : ∀ m ∈ members, (utf8 (quoted (m.1.getD ""))).length ≤ j ∧ (spelled m.2).length ≤ k) :
    (spelledMembers members).length ≤ members.length * (j + k + 2) + 1 := by
  induction members with
  | nil =>
    rw [spelledMembers, List.length_nil, Nat.zero_mul]
    exact Nat.le_refl 1
  | cons m rest ih =>
    obtain ⟨name, v⟩ := m
    obtain ⟨hname, hv⟩ := h (name, v) List.mem_cons_self
    have hrest := ih (fun m hm => h m (List.mem_cons_of_mem _ hm))
    dsimp only at hname hv
    rw [List.length_cons, Nat.succ_mul]
    cases rest with
    | nil =>
      simp only [spelledMembers, List.length_append, List.length_cons, List.length_nil]
      omega
    | cons next rest =>
      simp only [spelledMembers, List.length_append, List.length_cons] at hrest ⊢
      omega

/-- What a list takes, if it has at most `n` items and each takes at most `k` bytes. -/
theorem length_spelled_list_le {α : Type} {write : α → Json} {items : List α} {n k : Nat}
    (hlength : items.length ≤ n) (h : ∀ a ∈ items, (spelled (write a)).length ≤ k) :
    (spelled (list write items)).length ≤ n * (k + 1) + 2 := by
  have hitems : (spelledItems (items.map write)).length ≤
      (items.map write).length * (k + 1) + 1 := by
    refine length_spelledItems_le (fun item hitem => ?_)
    obtain ⟨a, ha, rfl⟩ := List.mem_map.1 hitem
    exact h a ha
  rw [List.length_map] at hitems
  have hmost := Nat.mul_le_mul_right (k + 1) hlength
  exact Nat.succ_le_succ (Nat.le_trans hitems (Nat.succ_le_succ hmost))

/-- What an object takes, if each name takes at most `j` bytes and each value at most `k`. -/
theorem length_spelled_obj_le {members : List (String × Json)} {j k : Nat}
    (h : ∀ m ∈ members, (utf8 (quoted m.1)).length ≤ j ∧ (spelled m.2).length ≤ k) :
    (spelled (obj members)).length ≤ members.length * (j + k + 2) + 2 := by
  refine Nat.succ_le_succ (Nat.le_trans (length_spelledMembers_le (j := j) (k := k) ?_) ?_)
  · intro m hm
    obtain ⟨m', hm', rfl⟩ := List.mem_map.1 hm
    exact h m' hm'
  · rw [List.length_map]

theorem length_spelled_byte_le (b : UInt8) : (spelled (byte b)).length ≤ 20 :=
  length_spelled_nat_le (Nat.lt_trans b.toNat_lt (by decide))

theorem length_spelled_word_le (w : UInt16) : (spelled (word w)).length ≤ 20 :=
  length_spelled_nat_le (Nat.lt_trans w.toNat_lt (by decide))

theorem length_spelled_doubleWord_le (n : UInt32) : (spelled (doubleWord n)).length ≤ 20 :=
  length_spelled_nat_le (Nat.lt_trans n.toNat_lt (by decide))

/-- The names of the fields of stacks and streams are short. -/
theorem length_fieldNames_le : ∀ name ∈ ["stack", "frames", "return_pc", "storer", "locals",
    "arg_count", "stack_base", "screen", "tables", "addr", "written"],
      (utf8 (quoted name)).length ≤ 12 := by
  simp only [utf8_eq]
  decide

end Json

/-! ## Stack and streams -/

theorem Variable.length_spelled_le (v : Option Variable) :
    (Json.spelled (optionToJson v)).length ≤ 20 := by
  cases v with
  | none =>
    rw [show Json.spelled (optionToJson none) = [0x6E, 0x75, 0x6C, 0x6C] from Json.utf8_eq _]
    decide
  | some v => exact Json.length_spelled_byte_le v.number

/-- The locals take the most of a frame: 15 words of at most 21 bytes, with the commas. -/
theorem Frame.length_spelled_le {f : Frame} (hlocals : f.locals.length ≤ Stack.maxLocals)
    (hbase : f.stackBase < UInt64.size) :
    (Json.spelled f.toJson).length ≤ 5 * (12 + (15 * 21 + 2) + 2) + 2 := by
  have hname := Json.length_fieldNames_le
  have hlist := Json.length_spelled_list_le hlocals (fun w _ => Json.length_spelled_word_le w)
  have hshort {k : Nat} (h : k ≤ 20) : k ≤ 15 * 21 + 2 := Nat.le_trans h (by decide)
  refine Json.length_spelled_obj_le (fun m hm => ?_)
  simp only [List.mem_cons, List.not_mem_nil, or_false] at hm
  rcases hm with rfl | rfl | rfl | rfl | rfl
  · exact ⟨hname "return_pc" (by decide), hshort (Json.length_spelled_doubleWord_le f.returnPc)⟩
  · exact ⟨hname "storer" (by decide), hshort (Variable.length_spelled_le f.storer)⟩
  · exact ⟨hname "locals" (by decide), hlist⟩
  · exact ⟨hname "arg_count" (by decide), hshort (Json.length_spelled_byte_le f.argCount)⟩
  · exact ⟨hname "stack_base" (by decide), hshort (Json.length_spelled_nat_le hbase)⟩

theorem Stack.Disciplined.base_lt {s : Stack} (h : s.Disciplined) :
    ∀ f ∈ s.frames, f.stackBase < UInt64.size := by
  intro f hf
  have hbase := h.bases.base_le f hf
  have hvalues := h.values
  unfold maxValues at hvalues
  exact Nat.lt_of_le_of_lt (Nat.le_trans hbase hvalues) (by decide)

/-- The text of a stack within its limits has less than 4 MiB. -/
theorem Stack.Disciplined.length_compactBytes_lt {s : Stack} (h : s.Disciplined) :
    s.toJson.compactBytes.length < 2 ^ 22 := by
  have hname := Json.length_fieldNames_le
  have hvalues : (Json.spelled (.list .word s.values.toList)).length ≤ maxValues * 21 + 2 :=
    Json.length_spelled_list_le h.values (fun w _ => Json.length_spelled_word_le w)
  have hframes : (Json.spelled (.list Frame.toJson s.frames.reverse)).length ≤
      maxFrames * 1658 + 2 := by
    refine Json.length_spelled_list_le (List.length_reverse.trans_le h.frames) (fun f hf => ?_)
    have hf := List.mem_reverse.1 hf
    exact Frame.length_spelled_le (h.locals f hf) (h.base_lt f hf)
  have hbytes : s.toJson.compactBytes = Json.spelled s.toJson :=
    Json.utf8_compact (writable_toJson h.base_lt)
  have hstack : (Json.spelled s.toJson).length ≤ 2 * (12 + (maxFrames * 1658 + 2) + 2) + 2 := by
    refine Json.length_spelled_obj_le (fun m hm => ?_)
    simp only [List.mem_cons, List.not_mem_nil, or_false] at hm
    rcases hm with rfl | rfl
    · exact ⟨hname "stack" (by decide), Nat.le_trans hvalues (by decide)⟩
    · exact ⟨hname "frames" (by decide), hframes⟩
  rw [hbytes]
  exact Nat.lt_of_le_of_lt hstack (by decide)

theorem TableStream.length_spelled_le (t : TableStream) :
    (Json.spelled t.toJson).length ≤ 2 * (12 + 20 + 2) + 2 := by
  have hname := Json.length_fieldNames_le
  refine Json.length_spelled_obj_le (fun m hm => ?_)
  simp only [List.mem_cons, List.not_mem_nil, or_false] at hm
  rcases hm with rfl | rfl
  · exact ⟨hname "addr" (by decide), Json.length_spelled_doubleWord_le t.address⟩
  · exact ⟨hname "written" (by decide), Json.length_spelled_word_le t.written⟩

/-- The text of streams with no more tables than may nest has less than 4 KiB. -/
theorem OutputStreams.length_compactBytes_lt {s : OutputStreams}
    (h : s.tables.length ≤ maxTables) : s.toJson.compactBytes.length < 2 ^ 12 := by
  have hname := Json.length_fieldNames_le
  have htables : (Json.spelled (.list TableStream.toJson s.tables.reverse)).length ≤
      maxTables * 71 + 2 :=
    Json.length_spelled_list_le (List.length_reverse.trans_le h) (fun t _ => t.length_spelled_le)
  have hscreen : (Json.spelled (.bool s.screen)).length ≤ maxTables * 71 + 2 := by
    cases s.screen with
    | false =>
      rw [show Json.spelled (.bool false) = [0x66, 0x61, 0x6C, 0x73, 0x65] from Json.utf8_eq _]
      decide
    | true =>
      rw [show Json.spelled (.bool true) = [0x74, 0x72, 0x75, 0x65] from Json.utf8_eq _]
      decide
  have hstreams : (Json.spelled s.toJson).length ≤ 2 * (12 + (maxTables * 71 + 2) + 2) + 2 := by
    refine Json.length_spelled_obj_le (fun m hm => ?_)
    simp only [List.mem_cons, List.not_mem_nil, or_false] at hm
    rcases hm with rfl | rfl
    · exact ⟨hname "screen" (by decide), hscreen⟩
    · exact ⟨hname "tables" (by decide), htables⟩
  have hbytes : s.toJson.compactBytes = Json.spelled s.toJson := Json.utf8_compact s.writable_toJson
  rw [hbytes]
  exact Nat.lt_of_le_of_lt hstreams (by decide)

/-! ## Differences -/

namespace Snapshot

/-- A payload has at most two bytes for each difference. -/
theorem Spells.length_le {payload ds : List UInt8} (h : Spells payload ds) :
    payload.length ≤ 2 * ds.length := by
  induction h with
  | nil => exact Nat.le_refl 0
  | zeros n h ih =>
    simp only [List.length_cons, List.length_append, List.length_replicate]
    omega
  | byte hx h ih =>
    simp only [List.length_cons]
    omega

theorem length_compress_le (m story : Memory) : (compress m story).length ≤ 2 * m.size := by
  obtain ⟨p, ds, more, hp, hspells, hds⟩ := compressTo_spells m.toList story.toList #[] 0
  have hpayload : compress m story = p := by
    unfold compress
    rw [hp]
    rfl
  have hlength := congrArg List.length hds
  simp only [List.length_append, List.length_replicate, List.length_zipWith] at hlength
  have hsize : m.toList.length = m.size := Array.length_toList
  have hbound := hspells.length_le
  rw [hpayload]
  omega

/-! ## Snapshots -/

/-- **Snapshots of a machine within its limits fit a save**, up to 2 GiB of memory. -/
theorem fits_of_disciplined {p : Snapshot} (hmemory : p.memory.size < 2 ^ 31)
    (hstack : p.stack.Disciplined) (hstreams : p.streams.tables.length ≤ OutputStreams.maxTables)
    (story : Memory) : p.Fits story where
  memory := by
    have := length_compress_le p.memory story
    omega
  stack := Nat.lt_trans hstack.length_compactBytes_lt (by decide)
  streams := Nat.lt_trans (OutputStreams.length_compactBytes_lt hstreams) (by decide)
  heights := hstack.base_lt

end Snapshot

namespace Machine

/-- The stack and the output streams are within their limits, and the memory has less than 2 GiB. -/
structure WithinLimits (s : Machine) : Prop where
  memory : s.memory.size < 2 ^ 31
  stack : s.stack.Disciplined
  streams : s.streams.tables.length ≤ OutputStreams.maxTables

theorem WithinLimits.fits {s : Machine} (h : s.WithinLimits) (target : Option Variable)
    (story : Memory) : (Snapshot.capture s target).Fits story :=
  Snapshot.fits_of_disciplined h.memory h.stack h.streams story

end Machine
end ZMachine
