import ZMachine.Proofs.Json.Number

/-!
# Values are read back

A value made of null, booleans, integers of 64 bits, texts, arrays and objects is read back from the
text that is written for it:

    utf8 (compactTo out v) = utf8 out ++ spelled v
    value fuel (spelled v ++ rest) = some (v, rest)        when Ends rest
    parse (utf8 (compact v)) = some v

`spelled` has the bytes of a value with what closes it, in the order they are read.
-/

namespace ZMachine.Json

/-! ## Written values -/

/-- A value that is read back when it is written. -/
inductive Writable : Json → Prop
  | null : Writable .null
  | bool (b : Bool) : Writable (.bool b)
  | integer {n : Int} (hlow : -(int64Bound : Int) ≤ n) (hhigh : n < UInt64.size) :
    Writable (.integer n)
  | text (s : String) : Writable (.text (some s))
  | array {items : List Json} (h : ∀ item ∈ items, Writable item) : Writable (.array items)
  | object {members : List (Option String × Json)} (hnames : ∀ m ∈ members, m.1.isSome = true)
    (h : ∀ m ∈ members, Writable m.2) : Writable (.object members)

mutual

/-- The bytes of a value. -/
def spelled : Json → List UInt8
  | array items => 0x5B :: spelledItems items
  | object members => 0x7B :: spelledMembers members
  | value => utf8 value.atom

/-- The bytes of items and the bracket behind them. -/
def spelledItems : List Json → List UInt8
  | [] => [0x5D]
  | [item] => spelled item ++ [0x5D]
  | item :: next :: rest => spelled item ++ 0x2C :: spelledItems (next :: rest)

/-- The bytes of members and the brace behind them. -/
def spelledMembers : List (Option String × Json) → List UInt8
  | [] => [0x7D]
  | [(name, v)] => utf8 (quoted (name.getD "")) ++ 0x3A :: (spelled v ++ [0x7D])
  | (name, v) :: next :: rest =>
    utf8 (quoted (name.getD "")) ++ 0x3A :: (spelled v ++ 0x2C :: spelledMembers (next :: rest))

end

theorem utf8_compactItems {items : List Json}
    (h : ∀ item ∈ items, ∀ out, utf8 (compactTo out item) = utf8 out ++ spelled item) :
    ∀ (out : String) (first : Bool), items ≠ [] →
      utf8 ((compactItems out first items).push ']') =
        utf8 (if first then out else out.push ',') ++ spelledItems items := by
  induction items with
  | nil => exact fun _ _ hne => absurd rfl hne
  | cons item rest ih =>
    intro out first _
    have hitem := h item (List.mem_cons_self ..)
    rw [compactItems]
    cases rest with
    | nil =>
      rw [compactItems, utf8_push, hitem, spelledItems, List.append_assoc]
      rfl
    | cons next rest =>
      rw [ih (fun i hi => h i (List.mem_cons_of_mem _ hi)) _ false (List.cons_ne_nil _ _),
        if_neg (by decide), utf8_push, hitem, spelledItems, List.append_assoc, List.append_assoc]
      rfl

theorem utf8_compactMembers {members : List (Option String × Json)}
    (h : ∀ m ∈ members, ∀ out, utf8 (compactTo out m.2) = utf8 out ++ spelled m.2) :
    ∀ (out : String) (first : Bool), members ≠ [] →
      utf8 ((compactMembers out first members).push '\x7d') =
        utf8 (if first then out else out.push ',') ++ spelledMembers members := by
  induction members with
  | nil => exact fun _ _ hne => absurd rfl hne
  | cons m rest ih =>
    obtain ⟨name, v⟩ := m
    intro out first _
    have hv := h (name, v) (List.mem_cons_self ..)
    rw [compactMembers]
    cases rest with
    | nil =>
      rw [compactMembers, utf8_push, hv, utf8_push, utf8_append, spelledMembers]
      simp only [List.append_assoc]
      rfl
    | cons next rest =>
      rw [ih (fun i hi => h i (List.mem_cons_of_mem _ hi)) _ false (List.cons_ne_nil _ _),
        if_neg (by decide), utf8_push, hv, utf8_push, utf8_append, spelledMembers]
      simp only [List.append_assoc]
      rfl

/-- Writing a value puts its bytes behind the text so far. -/
theorem utf8_compactTo {v : Json} (h : Writable v) :
    ∀ out : String, utf8 (compactTo out v) = utf8 out ++ spelled v := by
  induction h with
  | null => exact fun out => utf8_append out _
  | bool b => exact fun out => utf8_append out _
  | integer => exact fun out => utf8_append out _
  | text s => exact fun out => utf8_append out _
  | array h ih =>
    rename_i items
    intro out
    rw [compactTo, spelled]
    cases items with
    | nil =>
      rw [compactItems, utf8_push, utf8_push, spelledItems, List.append_assoc]
      rfl
    | cons item rest =>
      rw [utf8_compactItems ih _ true (List.cons_ne_nil _ _), if_pos rfl, utf8_push,
        List.append_assoc]
      rfl
  | object hnames h ih =>
    rename_i members
    intro out
    rw [compactTo, spelled]
    cases members with
    | nil =>
      rw [compactMembers, utf8_push, utf8_push, spelledMembers, List.append_assoc]
      rfl
    | cons m rest =>
      rw [utf8_compactMembers ih _ true (List.cons_ne_nil _ _), if_pos rfl, utf8_push,
        List.append_assoc]
      rfl

/-! ## Read values -/

/-- A byte that a value starts with. -/
structure Starts (b : UInt8) : Prop where
  space : isSpace b = false
  bracket : b ≠ 0x5D
  brace : b ≠ 0x7D

instance (b : UInt8) : Decidable (Starts b) :=
  decidable_of_iff (isSpace b = false ∧ b ≠ 0x5D ∧ b ≠ 0x7D)
    ⟨fun h => ⟨h.1, h.2.1, h.2.2⟩, fun h => ⟨h.space, h.bracket, h.brace⟩⟩

theorem skipSpace_cons {b : UInt8} (h : isSpace b = false) (rest : List UInt8) :
    skipSpace (b :: rest) = b :: rest := by
  unfold skipSpace
  rw [List.dropWhile_cons_of_neg (by simp [h])]

theorem StartsNumber.starts {b : UInt8} (h : StartsNumber b) : Starts b := by
  refine ⟨?_, h.ne (by decide), h.ne (by decide)⟩
  unfold isSpace
  simp [h.ne (by decide : isDigit 0x20 = false ∧ _), h.ne (by decide : isDigit 0x0A = false ∧ _),
    h.ne (by decide : isDigit 0x0D = false ∧ _), h.ne (by decide : isDigit 0x09 = false ∧ _)]

/-- Bytes that start like a number are read as one. -/
theorem value_number {b : UInt8} (h : StartsNumber b) (fuel : Nat) (more : List UInt8) :
    value (fuel + 1) (b :: more) = number (b :: more) := by
  rw [value, skipSpace_cons h.starts.space]
  split
  · next heq => exact absurd (List.cons.inj heq).1 (h.ne (by decide))
  · next heq => exact absurd (List.cons.inj heq).1 (h.ne (by decide))
  · next heq => exact absurd (List.cons.inj heq).1 (h.ne (by decide))
  · next heq => exact absurd (List.cons.inj heq).1 (h.ne (by decide))
  · next heq => exact absurd (List.cons.inj heq).1 (h.ne (by decide))
  · next heq => exact absurd (List.cons.inj heq).1 (h.ne (by decide))
  · rfl

theorem spelled_starts {v : Json} (h : Writable v) :
    ∃ b more, spelled v = b :: more ∧ Starts b := by
  cases h with
  | null => exact ⟨_, _, utf8_eq _, by decide⟩
  | bool b =>
    cases b with
    | false => exact ⟨_, _, utf8_eq _, by decide⟩
    | true => exact ⟨_, _, utf8_eq _, by decide⟩
  | integer =>
    rename_i n hlow hhigh
    obtain ⟨b, more, hcons, hb, -⟩ := number_toString hlow hhigh ends_nil
    exact ⟨b, more, hcons, hb.starts⟩
  | text s => exact ⟨_, _, utf8_quoted s, by decide⟩
  | array => exact ⟨_, _, rfl, by decide⟩
  | object => exact ⟨_, _, rfl, by decide⟩

/-- The items of an array are read from their bytes. -/
theorem items_spelled {items : List Json}
    (h : ∀ item ∈ items, ∀ (fuel : Nat) (rest : List UInt8),
      2 * (spelled item).length ≤ fuel → Ends rest →
        value fuel (spelled item ++ rest) = some (item, rest)) :
    ∀ (seen : List Json) (fuel : Nat) (rest : List UInt8), items ≠ [] →
      2 * (spelledItems items).length ≤ fuel →
        Json.items fuel seen (spelledItems items ++ rest) =
          some (.array (seen.reverse ++ items), rest) := by
  induction items with
  | nil => exact fun _ _ _ hne => absurd rfl hne
  | cons item more ih =>
    intro seen fuel rest _ hfuel
    have hitem := h item (List.mem_cons_self ..)
    cases more with
    | nil =>
      simp only [spelledItems, List.length_append, List.length_singleton] at hfuel
      cases fuel with
      | zero => omega
      | succ fuel =>
        rw [Json.items, spelledItems, List.append_assoc, List.singleton_append,
          hitem fuel _ (by omega) (ends_cons (by decide) rest)]
        dsimp only
        rw [skipSpace_cons (by decide)]
        simp
    | cons next more =>
      simp only [spelledItems, List.length_append, List.length_cons] at hfuel
      cases fuel with
      | zero => omega
      | succ fuel =>
        rw [Json.items, spelledItems, List.append_assoc, List.cons_append,
          hitem fuel _ (by omega) (ends_cons (by decide) _)]
        dsimp only
        rw [skipSpace_cons (by decide)]
        refine (ih (fun i hi => h i (List.mem_cons_of_mem _ hi)) (item :: seen) fuel rest
          (List.cons_ne_nil _ _) (by omega)).trans ?_
        simp

/-- A member with a comma behind it is read, and the members after it. -/
theorem members_comma (s : String) {v : Json} {fuel : Nat} {rest : List UInt8}
    (hv : value fuel (spelled v ++ 0x2C :: rest) = some (v, 0x2C :: rest))
    (seen : List (Option String × Json)) :
    Json.members (fuel + 1) seen (utf8 (quoted s) ++ 0x3A :: (spelled v ++ 0x2C :: rest)) =
      Json.members fuel ((some s, v) :: seen) rest := by
  obtain ⟨tail, ps, hquoted, hpieces, htext⟩ :=
    pieces_quoted s (0x3A :: (spelled v ++ 0x2C :: rest))
  have hcolon : (colon (0x3A :: (spelled v ++ 0x2C :: rest))).bind (value fuel) =
      some (v, 0x2C :: rest) := hv
  rw [hquoted, List.cons_append, Json.members, skipSpace_cons (by decide)]
  simp only [hpieces, hcolon, htext]
  rw [skipSpace_cons (by decide)]
  rfl

/-- The last member is read with the brace behind it. -/
theorem members_brace (s : String) {v : Json} {fuel : Nat} {rest : List UInt8}
    (hv : value fuel (spelled v ++ 0x7D :: rest) = some (v, 0x7D :: rest))
    (seen : List (Option String × Json)) :
    Json.members (fuel + 1) seen (utf8 (quoted s) ++ 0x3A :: (spelled v ++ 0x7D :: rest)) =
      some (.object ((some s, v) :: seen).reverse, rest) := by
  obtain ⟨tail, ps, hquoted, hpieces, htext⟩ :=
    pieces_quoted s (0x3A :: (spelled v ++ 0x7D :: rest))
  have hcolon : (colon (0x3A :: (spelled v ++ 0x7D :: rest))).bind (value fuel) =
      some (v, 0x7D :: rest) := hv
  rw [hquoted, List.cons_append, Json.members, skipSpace_cons (by decide)]
  simp only [hpieces, hcolon, htext]
  rw [skipSpace_cons (by decide)]
  rfl

/-- The members of an object are read from their bytes. -/
theorem members_spelled {members : List (Option String × Json)}
    (hnames : ∀ m ∈ members, m.1.isSome = true)
    (h : ∀ m ∈ members, ∀ (fuel : Nat) (rest : List UInt8),
      2 * (spelled m.2).length ≤ fuel → Ends rest →
        value fuel (spelled m.2 ++ rest) = some (m.2, rest)) :
    ∀ (seen : List (Option String × Json)) (fuel : Nat) (rest : List UInt8), members ≠ [] →
      2 * (spelledMembers members).length ≤ fuel →
        Json.members fuel seen (spelledMembers members ++ rest) =
          some (.object (seen.reverse ++ members), rest) := by
  induction members with
  | nil => exact fun _ _ _ hne => absurd rfl hne
  | cons m more ih =>
    obtain ⟨name, v⟩ := m
    intro seen fuel rest _ hfuel
    obtain ⟨s, rfl⟩ := Option.isSome_iff_exists.1 (hnames (name, v) (List.mem_cons_self ..))
    have hv : ∀ (fuel : Nat) (rest : List UInt8), 2 * (spelled v).length ≤ fuel → Ends rest →
        value fuel (spelled v ++ rest) = some (v, rest) := h (some s, v) (List.mem_cons_self ..)
    cases more with
    | nil =>
      simp only [spelledMembers, List.length_append, List.length_cons] at hfuel
      cases fuel with
      | zero => omega
      | succ fuel =>
        have hfollow : spelledMembers [(some s, v)] ++ rest =
            utf8 (quoted s) ++ 0x3A :: (spelled v ++ 0x7D :: rest) := by
          simp [spelledMembers]
        rw [hfollow, members_brace s (hv fuel _ (by omega) (ends_cons (by decide) rest))]
        simp
    | cons next more =>
      simp only [spelledMembers, List.length_append, List.length_cons] at hfuel
      cases fuel with
      | zero => omega
      | succ fuel =>
        have hfollow : spelledMembers ((some s, v) :: next :: more) ++ rest =
            utf8 (quoted s) ++
              0x3A :: (spelled v ++ 0x2C :: (spelledMembers (next :: more) ++ rest)) := by
          simp [spelledMembers]
        rw [hfollow, members_comma s (hv fuel _ (by omega) (ends_cons (by decide) _)),
          ih (fun m hm => hnames m (List.mem_cons_of_mem _ hm))
            (fun m hm => h m (List.mem_cons_of_mem _ hm)) _ fuel rest (List.cons_ne_nil _ _)
            (by omega)]
        simp

theorem spelledItems_starts {items : List Json} (h : ∀ item ∈ items, Writable item)
    (hne : items ≠ []) : ∃ b more, spelledItems items = b :: more ∧ Starts b := by
  cases items with
  | nil => exact absurd rfl hne
  | cons item rest =>
    obtain ⟨b, more, hcons, hb⟩ := spelled_starts (h item (List.mem_cons_self ..))
    cases rest with
    | nil => exact ⟨b, more ++ [0x5D], by rw [spelledItems, hcons]; rfl, hb⟩
    | cons next rest =>
      exact ⟨b, more ++ 0x2C :: spelledItems (next :: rest), by rw [spelledItems, hcons]; rfl, hb⟩

theorem spelledMembers_starts {members : List (Option String × Json)} (hne : members ≠ []) :
    ∃ more, spelledMembers members = 0x22 :: more := by
  cases members with
  | nil => exact absurd rfl hne
  | cons m rest =>
    obtain ⟨name, v⟩ := m
    cases rest with
    | nil =>
      rw [spelledMembers, utf8_quoted]
      exact ⟨_, rfl⟩
    | cons next rest =>
      rw [spelledMembers, utf8_quoted]
      exact ⟨_, rfl⟩

/-- An array or an object that starts with something else than its closing bracket has parts. -/
theorem value_array {b : UInt8} (hb : Starts b) (fuel : Nat) (more : List UInt8) :
    value (fuel + 1) (0x5B :: b :: more) = items fuel [] (b :: more) := by
  rw [value.eq_def]
  simp only [skipSpace_cons hb.space, skipSpace_cons (show isSpace 0x5B = false from rfl)]
  split
  · next heq => exact absurd (List.cons.inj heq).1 hb.bracket
  · rfl

theorem value_object {b : UInt8} (hb : Starts b) (fuel : Nat) (more : List UInt8) :
    value (fuel + 1) (0x7B :: b :: more) = members fuel [] (b :: more) := by
  rw [value.eq_def]
  simp only [skipSpace_cons hb.space, skipSpace_cons (show isSpace 0x7B = false from rfl)]
  split
  · next heq => exact absurd (List.cons.inj heq).1 hb.brace
  · rfl

theorem exists_fuel {v : Json} (h : Writable v) {fuel : Nat}
    (hfuel : 2 * (spelled v).length ≤ fuel) : ∃ k, fuel = k + 1 := by
  obtain ⟨b, more, hcons, -⟩ := spelled_starts h
  rw [hcons, List.length_cons] at hfuel
  exact ⟨fuel - 1, by omega⟩

/-- A value is read from its bytes, if what follows them does not go on a number. -/
theorem value_spelled {v : Json} (h : Writable v) :
    ∀ (fuel : Nat) (rest : List UInt8), 2 * (spelled v).length ≤ fuel → Ends rest →
      value fuel (spelled v ++ rest) = some (v, rest) := by
  induction h with
  | null =>
    intro fuel rest hfuel _
    obtain ⟨fuel, rfl⟩ := exists_fuel .null hfuel
    rw [show spelled .null = [0x6E, 0x75, 0x6C, 0x6C] from utf8_eq _]
    rfl
  | bool b =>
    intro fuel rest hfuel _
    obtain ⟨fuel, rfl⟩ := exists_fuel (.bool b) hfuel
    cases b with
    | false =>
      rw [show spelled (.bool false) = [0x66, 0x61, 0x6C, 0x73, 0x65] from utf8_eq _]
      rfl
    | true =>
      rw [show spelled (.bool true) = [0x74, 0x72, 0x75, 0x65] from utf8_eq _]
      rfl
  | integer hlow hhigh =>
    intro fuel rest hfuel hrest
    obtain ⟨fuel, rfl⟩ := exists_fuel (.integer hlow hhigh) hfuel
    obtain ⟨b, more, hcons, hb, hnumber⟩ := number_toString hlow hhigh hrest
    show value (fuel + 1) (utf8 (toString _) ++ rest) = _
    rw [hcons, List.cons_append, value_number hb]
    exact hnumber
  | text s =>
    intro fuel rest hfuel _
    obtain ⟨fuel, rfl⟩ := exists_fuel (.text s) hfuel
    obtain ⟨tail, ps, hquoted, hpieces, htext⟩ := pieces_quoted s rest
    show value (fuel + 1) (utf8 (quoted s) ++ rest) = _
    rw [hquoted, List.cons_append, value, skipSpace_cons (by decide)]
    simp only [hpieces, htext, Option.map_some]
  | array h ih =>
    rename_i items
    intro fuel rest hfuel _
    obtain ⟨fuel, rfl⟩ := exists_fuel (.array h) hfuel
    rw [spelled, List.length_cons] at hfuel
    rw [spelled, List.cons_append]
    cases hitems : items with
    | nil =>
      rw [spelledItems]
      rfl
    | cons item more =>
      rw [← hitems]
      have hne : items ≠ [] := hitems ▸ List.cons_ne_nil _ _
      have hread := items_spelled ih [] fuel rest hne (by omega)
      obtain ⟨b, tail, hcons, hb⟩ := spelledItems_starts h hne
      rw [hcons, List.cons_append] at hread ⊢
      rw [value_array hb, hread]
      rfl
  | object hnames h ih =>
    rename_i members
    intro fuel rest hfuel _
    obtain ⟨fuel, rfl⟩ := exists_fuel (.object hnames h) hfuel
    rw [spelled, List.length_cons] at hfuel
    rw [spelled, List.cons_append]
    cases hmembers : members with
    | nil =>
      rw [spelledMembers]
      rfl
    | cons m more =>
      rw [← hmembers]
      have hne : members ≠ [] := hmembers ▸ List.cons_ne_nil _ _
      have hread := members_spelled hnames ih [] fuel rest hne (by omega)
      obtain ⟨tail, hcons⟩ := spelledMembers_starts hne
      rw [hcons, List.cons_append] at hread ⊢
      rw [value_object (by decide), hread]
      rfl

theorem utf8_compact {v : Json} (h : Writable v) : utf8 v.compact = spelled v := by
  unfold compact
  rw [utf8_compactTo h, utf8_empty, List.nil_append]

/-- A value is read back from the text that is written for it. -/
theorem parse_compact {v : Json} (h : Writable v) : parse (utf8 v.compact) = some v := by
  have hvalue := value_spelled h (2 * (spelled v).length + 2) [] (by omega) ends_nil
  rw [List.append_nil] at hvalue
  unfold parse
  rw [utf8_compact h, hvalue]
  rfl

end ZMachine.Json
