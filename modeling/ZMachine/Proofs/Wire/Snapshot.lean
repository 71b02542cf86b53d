import ZMachine.Proofs.Json.Value
import ZMachine.Wire.Snapshot

/-!
# Stack and streams are read back

The records of the stack and of the output streams are read back from what is written for them, and
so are the texts:

    Stack.ofJson? s.toJson = some s
    (Json.parse s.toJson.compactBytes).bind Stack.ofJson? = some s

The heights that frames remember must be numbers of 64 bits; all other numbers are.
-/

namespace ZMachine

namespace Json

/-! ## Simple values -/

variable {α : Type}

theorem natBelow_nat {bound n : Nat} (h : n < bound) : natBelow bound (nat n) = some n := by
  show (if 0 ≤ (n : Int) ∧ (n : Int) < bound then some (n : Int).toNat else none) = some n
  rw [if_pos (by omega)]
  rfl

theorem uint8?_byte (b : UInt8) : uint8? (byte b) = some b := by
  unfold uint8? byte
  rw [natBelow_nat b.toNat_lt]
  simp

theorem uint16?_word (w : UInt16) : uint16? (word w) = some w := by
  unfold uint16? word
  rw [natBelow_nat w.toNat_lt]
  simp

theorem uint32?_doubleWord (n : UInt32) : uint32? (doubleWord n) = some n := by
  unfold uint32? doubleWord
  rw [natBelow_nat n.toNat_lt]
  simp

theorem size?_nat {n : Nat} (h : n < UInt64.size) : size? (nat n) = some n :=
  natBelow_nat h

/-- A list is read back if its items are. -/
theorem list?_list {write : α → Json} {read : Json → Option α} {items : List α}
    (h : ∀ a ∈ items, read (write a) = some a) : list? read (list write items) = some items := by
  show (items.map write).mapM read = some items
  rw [List.mapM_map]
  induction items with
  | nil => rfl
  | cons a rest ih =>
    rw [List.mapM_cons, Function.comp_apply, h a (List.mem_cons_self ..),
      ih (fun b hb => h b (List.mem_cons_of_mem _ hb))]
    rfl

/-! ## Fields -/

theorem need_self (name : String) (v : Json) (rest : Fields) (read : Json → Option α) :
    need ((name, v) :: rest) name read = read v := by
  simp [need]

theorem need_ne {name other : String} (h : name ≠ other) (v : Json) (rest : Fields)
    (read : Json → Option α) : need ((other, v) :: rest) name read = need rest name read := by
  have hne : (name == other) = false := by simpa using h
  simp [need, List.lookup_cons, hne]

theorem want_self (name : String) (v : Json) (rest : Fields) (default : α)
    (read : Json → Option α) : want ((name, v) :: rest) name default read = read v := by
  simp [want]

theorem want_ne {name other : String} (h : name ≠ other) (v : Json) (rest : Fields) (default : α)
    (read : Json → Option α) :
    want ((other, v) :: rest) name default read = want rest name default read := by
  have hne : (name == other) = false := by simpa using h
  simp [want, List.lookup_cons, hne]

/-! ## Values that can be written -/

theorem writable_nat {n : Nat} (h : n < UInt64.size) : Writable (nat n) :=
  .integer (by omega) (by omega)

theorem writable_byte (b : UInt8) : Writable (byte b) :=
  writable_nat (Nat.lt_trans b.toNat_lt (by decide))

theorem writable_word (w : UInt16) : Writable (word w) :=
  writable_nat (Nat.lt_trans w.toNat_lt (by decide))

theorem writable_doubleWord (n : UInt32) : Writable (doubleWord n) :=
  writable_nat (Nat.lt_trans n.toNat_lt (by decide))

theorem writable_list {write : α → Json} {items : List α} (h : ∀ a ∈ items, Writable (write a)) :
    Writable (list write items) := by
  refine .array (fun item hitem => ?_)
  obtain ⟨a, ha, rfl⟩ := List.mem_map.1 hitem
  exact h a ha

theorem writable_obj {members : List (String × Json)} (h : ∀ m ∈ members, Writable m.2) :
    Writable (obj members) := by
  refine .object (fun m hm => ?_) (fun m hm => ?_)
  · obtain ⟨m', -, rfl⟩ := List.mem_map.1 hm
    rfl
  · obtain ⟨m', hm', rfl⟩ := List.mem_map.1 hm
    exact h m' hm'

/-- What reads a value back from its JSON reads it back from the bytes of that. -/
theorem bind_parse_compactBytes {v : Json} (h : Writable v) {read : Json → Option α} {a : α}
    (hread : read v = some a) : (parse v.compactBytes).bind read = some a := by
  have hparse : parse v.compactBytes = some v := parse_compact h
  rw [hparse, Option.bind_some, hread]

end Json

/-! ## Variables -/

theorem Variable.optionOfJson?_optionToJson (v : Option Variable) :
    Variable.optionOfJson? (Variable.optionToJson v) = some v := by
  cases v with
  | none => rfl
  | some v =>
    show ((Json.byte v.number).uint8?.map Variable.mk).map some = _
    rw [Json.uint8?_byte]
    rfl

theorem Variable.writable_optionToJson (v : Option Variable) :
    Json.Writable (Variable.optionToJson v) := by
  cases v with
  | none => exact .null
  | some v => exact Json.writable_byte v.number

/-! ## Frames and the stack -/

theorem Frame.ofJson?_toJson {f : Frame} (h : f.stackBase < UInt64.size) :
    Frame.ofJson? f.toJson = some f := by
  have hrecord : f.toJson.record? ["return_pc", "storer", "locals", "arg_count", "stack_base"] 5 =
      some [("return_pc", .doubleWord f.returnPc), ("storer", Variable.optionToJson f.storer),
        ("locals", .list .word f.locals), ("arg_count", .byte f.argCount),
        ("stack_base", .nat f.stackBase)] := by
    rfl
  unfold Frame.ofJson?
  rw [hrecord, Option.bind_eq_bind, Option.bind_some]
  rw [Json.need_self, Json.uint32?_doubleWord]
  rw [Json.want_ne (by decide), Json.want_self, Variable.optionOfJson?_optionToJson]
  rw [Json.need_ne (by decide), Json.need_ne (by decide), Json.need_self,
    Json.list?_list (fun w _ => Json.uint16?_word w)]
  rw [Json.need_ne (by decide), Json.need_ne (by decide), Json.need_ne (by decide),
    Json.need_self, Json.uint8?_byte]
  rw [Json.need_ne (by decide), Json.need_ne (by decide), Json.need_ne (by decide),
    Json.need_ne (by decide), Json.need_self, Json.size?_nat h]
  rfl

theorem Stack.ofJson?_toJson {s : Stack} (h : ∀ f ∈ s.frames, f.stackBase < UInt64.size) :
    Stack.ofJson? s.toJson = some s := by
  have hrecord : s.toJson.record? ["stack", "frames"] 2 =
      some [("stack", .list .word s.values.toList),
        ("frames", .list Frame.toJson s.frames.reverse)] := by
    rfl
  have hframes : Json.list? Frame.ofJson? (.list Frame.toJson s.frames.reverse) =
      some s.frames.reverse :=
    Json.list?_list (fun f hf => Frame.ofJson?_toJson (h f (List.mem_reverse.1 hf)))
  unfold Stack.ofJson?
  rw [hrecord, Option.bind_eq_bind, Option.bind_some]
  rw [Json.need_self, Json.list?_list (fun w _ => Json.uint16?_word w)]
  rw [Json.need_ne (by decide), Json.need_self, hframes]
  simp

theorem Frame.writable_toJson {f : Frame} (h : f.stackBase < UInt64.size) :
    Json.Writable f.toJson := by
  refine Json.writable_obj (fun m hm => ?_)
  simp only [List.mem_cons, List.not_mem_nil, or_false] at hm
  rcases hm with rfl | rfl | rfl | rfl | rfl
  · exact Json.writable_doubleWord f.returnPc
  · exact Variable.writable_optionToJson f.storer
  · exact Json.writable_list (fun w _ => Json.writable_word w)
  · exact Json.writable_byte f.argCount
  · exact Json.writable_nat h

theorem Stack.writable_toJson {s : Stack} (h : ∀ f ∈ s.frames, f.stackBase < UInt64.size) :
    Json.Writable s.toJson := by
  refine Json.writable_obj (fun m hm => ?_)
  simp only [List.mem_cons, List.not_mem_nil, or_false] at hm
  rcases hm with rfl | rfl
  · exact Json.writable_list (fun w _ => Json.writable_word w)
  · exact Json.writable_list (fun f hf => Frame.writable_toJson (h f (List.mem_reverse.1 hf)))

/-- A stack is read back from its bytes. -/
theorem Stack.ofJson?_compactBytes {s : Stack} (h : ∀ f ∈ s.frames, f.stackBase < UInt64.size) :
    (Json.parse s.toJson.compactBytes).bind Stack.ofJson? = some s :=
  Json.bind_parse_compactBytes (Stack.writable_toJson h) (Stack.ofJson?_toJson h)

/-! ## Output streams -/

theorem TableStream.ofJson?_toJson (t : TableStream) : TableStream.ofJson? t.toJson = some t := by
  have hrecord : t.toJson.record? ["addr", "written"] 2 =
      some [("addr", .doubleWord t.address), ("written", .word t.written)] := by
    rfl
  unfold TableStream.ofJson?
  rw [hrecord, Option.bind_eq_bind, Option.bind_some]
  rw [Json.need_self, Json.uint32?_doubleWord]
  rw [Json.need_ne (by decide), Json.need_self, Json.uint16?_word]
  rfl

theorem OutputStreams.ofJson?_toJson (s : OutputStreams) :
    OutputStreams.ofJson? s.toJson = some s := by
  have hrecord : s.toJson.record? ["screen", "tables"] 2 =
      some [("screen", .bool s.screen), ("tables", .list TableStream.toJson s.tables.reverse)] := by
    rfl
  unfold OutputStreams.ofJson?
  rw [hrecord, Option.bind_eq_bind, Option.bind_some]
  rw [Json.need_self, Json.need_ne (by decide), Json.need_self,
    Json.list?_list (fun t _ => TableStream.ofJson?_toJson t)]
  simp [Json.bool?]

theorem OutputStreams.writable_toJson (s : OutputStreams) : Json.Writable s.toJson := by
  refine Json.writable_obj (fun m hm => ?_)
  simp only [List.mem_cons, List.not_mem_nil, or_false] at hm
  rcases hm with rfl | rfl
  · exact .bool s.screen
  · refine Json.writable_list (fun t _ => Json.writable_obj (fun m hm => ?_))
    simp only [List.mem_cons, List.not_mem_nil, or_false] at hm
    rcases hm with rfl | rfl
    · exact Json.writable_doubleWord t.address
    · exact Json.writable_word t.written

/-- Output streams are read back from their bytes. -/
theorem OutputStreams.ofJson?_compactBytes (s : OutputStreams) :
    (Json.parse s.toJson.compactBytes).bind OutputStreams.ofJson? = some s :=
  Json.bind_parse_compactBytes (OutputStreams.writable_toJson s) (OutputStreams.ofJson?_toJson s)

end ZMachine
