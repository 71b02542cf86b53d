import ZMachine.Text.ZString
import ZMachine.Proofs.Action
import ZMachine.Proofs.Memory

/-!
# Words read back from a dictionary

The dictionary form of a word is a z-string of three words.  It is cut after nine z-characters, also
within the spelling of a character, and filled up with shifts where it is shorter.  Neither leaves a
character behind: what is read is the text of the longest part of the word that fits,

    fitting a 9 word <+: word
    expand a t f 0 "" (dictionaryZchars a word) = .ok (textOf t (fitting a 9 word))

and no abbreviation is asked for, whatever alphabets are in effect.
-/

namespace ZMachine.ZString

section
variable {a : Alphabet} {t : ExtraChars} {f : Nat → Except Fault String}

/-! ## What fits -/

/-- As much of the start of a word as can be spelled with so many z-characters. -/
def fitting (a : Alphabet) : (room : Nat) → List UInt8 → List UInt8
  | _, [] => []
  | room, c :: rest =>
    if (spell a c).length ≤ room then c :: fitting a (room - (spell a c).length) rest else []

/-- The longest part among those from the start of a word that are spelled with so many
z-characters. -/
structure Longest (a : Alphabet) (room : Nat) (word part : List UInt8) : Prop where
  start : part <+: word
  fits : (part.flatMap (spell a)).length ≤ room
  longest : ∀ other, other <+: word → (other.flatMap (spell a)).length ≤ room →
    other <+: part

theorem longest_fitting (a : Alphabet) (room : Nat) (word : List UInt8) :
    Longest a room word (fitting a room word) := by
  induction word generalizing room with
  | nil => exact ⟨List.nil_prefix, Nat.zero_le _, fun _ h _ => h⟩
  | cons c rest ih =>
    unfold fitting
    by_cases hc : (spell a c).length ≤ room
    · obtain ⟨hstart, hfits, hlongest⟩ := ih (room - (spell a c).length)
      rw [if_pos hc]
      refine ⟨List.cons_prefix_cons.2 ⟨rfl, hstart⟩, ?_, fun other hother hroom => ?_⟩
      · rw [List.flatMap_cons, List.length_append]
        omega
      · cases other with
        | nil => exact List.nil_prefix
        | cons d other =>
          obtain ⟨rfl, hrest⟩ := List.cons_prefix_cons.1 hother
          rw [List.flatMap_cons, List.length_append] at hroom
          exact List.cons_prefix_cons.2 ⟨rfl, hlongest other hrest (by omega)⟩
    · rw [if_neg hc]
      refine ⟨List.nil_prefix, Nat.zero_le _, fun other hother hroom => ?_⟩
      cases other with
      | nil => exact List.nil_prefix
      | cons d other =>
        obtain ⟨rfl, -⟩ := List.cons_prefix_cons.1 hother
        rw [List.flatMap_cons, List.length_append] at hroom
        omega

theorem Longest.eq {room : Nat} {word part part' : List UInt8} (h : Longest a room word part)
    (h' : Longest a room word part') : part = part' :=
  (h'.longest part h.start h.fits).eq_of_length_le
    (h.longest part' h'.start h'.fits).length_le

/-- The text of ZSCII codes. -/
def textOf (t : ExtraChars) (word : List UInt8) : String :=
  .ofList (word.filterMap fun c => t.toChar? c.toUInt16)

theorem textOf_cons {c : UInt8} {ch : Char} (hch : t.toChar? c.toUInt16 = some ch)
    (rest : List UInt8) : textOf t (c :: rest) = String.singleton ch ++ textOf t rest := by
  unfold textOf
  rw [List.filterMap_cons, hch]
  exact String.ofList_cons

/-! ## The spelling of a character -/

/-- A letter that is found is at a place of its own. -/
theorem find_eq_some {c : UInt8} {row z : Nat} (h : a.find c = some (row, z)) :
    row < 3 ∧ 6 ≤ z ∧ z < 32 ∧ ¬ (z = 6 ∧ row = 2) ∧ a.letter row z = c := by
  obtain ⟨i, hi, hplace⟩ := Option.map_eq_some_iff.1 h
  obtain ⟨rfl, rfl⟩ := Prod.mk.inj hplace
  have hmem := List.mem_range.1 (List.mem_of_find?_eq_some hi)
  have hletter := List.find?_some hi
  rw [Bool.and_eq_true, beq_iff_eq] at hletter
  obtain ⟨hfixed, hletter⟩ := hletter
  have hescape : i ≠ 52 := by
    rintro rfl
    exact absurd hfixed (by decide)
  refine ⟨by omega, by omega, by omega, by omega, ?_⟩
  unfold Alphabet.letter
  rw [Nat.add_sub_cancel, Nat.div_add_mod, hletter]
  rfl

/-- The spelling of a character: a letter, a letter after a shift, or an escape. -/
theorem spell_cases (a : Alphabet) (c : UInt8) :
    (∃ z, spell a c = [z] ∧ 6 ≤ z ∧ z < 32 ∧ a.letter 0 z = c) ∨
    (∃ row z, spell a c = [3 + row, z] ∧ (row = 1 ∨ row = 2) ∧ 6 ≤ z ∧ z < 32 ∧
      ¬ (z = 6 ∧ row = 2) ∧ a.letter row z = c) ∨
    spell a c = [5, 6, c.toNat / 32, c.toNat % 32] := by
  unfold spell
  cases h : a.find c with
  | none => exact .inr (.inr rfl)
  | some place =>
    obtain ⟨row, z⟩ := place
    obtain ⟨hrow, hlow, hhigh, hescape, hletter⟩ := find_eq_some h
    cases row with
    | zero => exact .inl ⟨z, rfl, hlow, hhigh, hletter⟩
    | succ row => exact .inr (.inl ⟨row + 1, z, rfl, by omega, hlow, hhigh, hescape, hletter⟩)

theorem zchar_lt_of_spell {c : UInt8} {z : Nat} (h : z ∈ spell a c) : z < 32 := by
  have hc := c.toNat_lt
  obtain ⟨z', hs, -, hz, -⟩ | ⟨row, z', hs, hrow, -, hz, -⟩ | hs := spell_cases a c <;>
    rw [hs] at h <;>
    simp only [List.mem_cons, List.not_mem_nil, or_false] at h <;>
    omega

/-! ## Reading what was spelled -/

theorem expand_nil (row : Nat) (out : String) : expand a t f row out [] = .ok out := by
  rw [expand]
  rfl

/-- A z-character that is no space, no shift and no abbreviation is an escape or a letter. -/
theorem expand_of_six_le {row z : Nat} (hz : 6 ≤ z) (out : String) (rest : List Nat) :
    expand a t f row out (z :: rest) =
      if z = 6 ∧ row = 2 then
        match rest with
        | high :: low :: rest =>
          expand a t f 0 (out.push ((t.toChar? (escapeCode high low)).getD '?')) rest
        | _ => .ok out
      else
        match t.toChar? (a.letter row z).toUInt16 with
        | some c => expand a t f 0 (out.push c) rest
        | none => expand a t f 0 out rest := by
  obtain ⟨z, rfl⟩ := Nat.exists_eq_add_of_le' hz
  rw [expand.eq_def]
  exact if_neg (by omega)

theorem expand_letter {row z : Nat} {ch : Char} (out : String) (rest : List Nat) (hz : 6 ≤ z)
    (hescape : ¬ (z = 6 ∧ row = 2)) (hch : t.toChar? (a.letter row z).toUInt16 = some ch) :
    expand a t f row out (z :: rest) = expand a t f 0 (out.push ch) rest := by
  rw [expand_of_six_le hz, if_neg hescape, hch]

theorem expand_shift {row : Nat} (h : row = 1 ∨ row = 2) (row' : Nat) (out : String)
    (rest : List Nat) : expand a t f row' out ((3 + row) :: rest) = expand a t f row out rest := by
  obtain rfl | rfl := h <;> rw [expand]

theorem expand_escape {high low : Nat} (out : String) (rest : List Nat) {ch : Char}
    (hch : t.toChar? (escapeCode high low) = some ch) :
    expand a t f 2 out (6 :: high :: low :: rest) = expand a t f 0 (out.push ch) rest := by
  rw [expand_of_six_le (Nat.le_refl 6), if_pos ⟨rfl, rfl⟩]
  dsimp only
  rw [hch]
  rfl

/-- What is left of a string that ends in shifts. -/
theorem expand_shifts (row n : Nat) (out : String) :
    expand a t f row out (List.replicate n 5) = .ok out := by
  induction n generalizing row with
  | zero => exact expand_nil row out
  | succ n ih =>
    rw [List.replicate_succ, expand]
    exact ih 2

theorem escapeCode_byte (c : UInt8) : escapeCode (c.toNat / 32) (c.toNat % 32) = c.toUInt16 := by
  unfold escapeCode
  rw [Nat.div_add_mod']
  apply UInt16.toNat_inj.1
  rw [UInt8.toNat_toUInt16]
  exact UInt16.toNat_ofNat_of_lt' (Nat.lt_trans c.toNat_lt (by decide))

/-- A character that is spelled is read. -/
theorem expand_spell {c : UInt8} {ch : Char} (hch : t.toChar? c.toUInt16 = some ch) (out : String)
    (rest : List Nat) :
    expand a t f 0 out (spell a c ++ rest) = expand a t f 0 (out.push ch) rest := by
  obtain ⟨z, hs, hz, -, hletter⟩ | ⟨row, z, hs, hrow, hz, -, hescape, hletter⟩ | hs :=
    spell_cases a c
  · rw [hs, List.singleton_append]
    exact expand_letter out rest hz (by omega) (by rw [hletter, hch])
  · rw [hs, List.cons_append, List.singleton_append, expand_shift hrow]
    exact expand_letter out rest hz hescape (by rw [hletter, hch])
  · rw [hs]
    show expand a t f 0 out ((3 + 2) :: 6 :: c.toNat / 32 :: c.toNat % 32 :: rest) = _
    rw [expand_shift (.inr rfl)]
    exact expand_escape out rest (by rw [escapeCode_byte, hch])

/-- Of a spelling that is cut off, nothing is read. -/
theorem expand_cut {c : UInt8} {n : Nat} (h : n < (spell a c).length) (out : String) :
    expand a t f 0 out ((spell a c).take n) = .ok out := by
  obtain ⟨z, hs, -⟩ | ⟨row, z, hs, hrow, -⟩ | hs := spell_cases a c <;> rw [hs] at h ⊢
  · obtain rfl : n = 0 := Nat.lt_one_iff.1 h
    exact expand_nil 0 out
  · match n, h with
    | 0, _ => exact expand_nil 0 out
    | 1, _ => exact (expand_shift hrow 0 out []).trans (expand_nil row out)
  · match n, h with
    | 0, _ => exact expand_nil 0 out
    | 1, _ => exact (expand_shift (.inr rfl) 0 out []).trans (expand_nil 2 out)
    | 2, _ =>
      refine (expand_shift (.inr rfl) 0 out [6]).trans ?_
      rw [expand_of_six_le (Nat.le_refl 6), if_pos ⟨rfl, rfl⟩]
    | 3, _ =>
      refine (expand_shift (.inr rfl) 0 out [6, c.toNat / 32]).trans ?_
      rw [expand_of_six_le (Nat.le_refl 6), if_pos ⟨rfl, rfl⟩]

/-- The longest part that has room is read, and nothing else. -/
theorem expand_word {word : List UInt8} (hword : ∀ c ∈ word, (t.toChar? c.toUInt16).isSome)
    (room n : Nat) (out : String) :
    expand a t f 0 out ((word.flatMap (spell a) ++ List.replicate n 5).take room) =
      .ok (out ++ textOf t (fitting a room word)) := by
  induction word generalizing room out with
  | nil =>
    rw [List.flatMap_nil, List.nil_append, List.take_replicate, expand_shifts]
    exact congrArg Except.ok String.append_empty.symm
  | cons c rest ih =>
    obtain ⟨hc, hrest⟩ := List.forall_mem_cons.1 hword
    obtain ⟨ch, hch⟩ := Option.isSome_iff_exists.1 hc
    rw [List.flatMap_cons, List.append_assoc, fitting]
    by_cases hroom : (spell a c).length ≤ room
    · rw [if_pos hroom, List.take_append, List.take_of_length_le hroom, expand_spell hch, ih hrest]
      rw [textOf_cons hch, ← String.append_assoc, String.append_singleton]
    · rw [if_neg hroom, List.take_append_of_le_length (by omega),
        expand_cut (Nat.lt_of_not_le hroom)]
      exact congrArg Except.ok String.append_empty.symm

/-! ## Words of z-characters -/

theorem zchars_packWord (last : Bool) {a b c : Nat} (ha : a < 32) (hb : b < 32) (hc : c < 32) :
    zchars (packWord last a b c) = [a, b, c] ∧ isLast (packWord last a b c) = last := by
  have hw : (packWord last a b c).toNat = (if last then 0x8000 else 0) + a * 1024 + b * 32 + c := by
    unfold packWord
    rw [Nat.mod_eq_of_lt ha, Nat.mod_eq_of_lt hb, Nat.mod_eq_of_lt hc]
    exact UInt16.toNat_ofNat_of_lt' (by show _ < 65536; split <;> omega)
  constructor
  · unfold zchars
    rw [hw]
    cases last <;> simp <;> omega
  · unfold isLast
    rw [Bool.eq_iff_iff, top_bit_iff, UInt16.le_iff_toNat_le, hw]
    show 0x8000 ≤ _ ↔ _
    cases last <;> simp <;> omega

theorem readZchars_pack_cons {m : Memory} {x y z : Nat} {rest : List Nat}
    (hzs : ∀ i ∈ x :: y :: z :: rest, i < 32) {pos : Nat}
    (hm : m.Holds pos (pack (x :: y :: z :: rest))) (fuel : Nat) (seen : List Nat) :
    m.Holds (pos + 2) (pack rest) ∧ readZchars m (fuel + 1) pos seen =
      if rest.isEmpty then .ok (seen.reverse ++ [x, y, z], pos + 2)
      else readZchars m fuel (pos + 2) ([z, y, x] ++ seen) := by
  obtain ⟨hword, hrest⟩ := (m.holds_append _ _ _).1 hm
  obtain ⟨hzchars, hlast⟩ := zchars_packWord rest.isEmpty (hzs x (by simp)) (hzs y (by simp))
    (hzs z (by simp))
  refine ⟨hrest, ?_⟩
  rw [readZchars, (m.holds_wordBytes _ _).1 hword]
  show (if isLast (packWord rest.isEmpty x y z) then Except.ok _ else _) = _
  rw [hlast, hzchars, List.reverse_append, List.reverse_reverse]
  rfl

/-- The words of z-characters are read as these. -/
theorem readZchars_pack {m : Memory} (k : Nat) {zs : List Nat} (hzs : ∀ z ∈ zs, z < 32)
    (hlength : zs.length = 3 * (k + 1)) {fuel pos : Nat} (hfuel : k < fuel) (seen : List Nat)
    (hm : m.Holds pos (pack zs)) :
    readZchars m fuel pos seen = .ok (seen.reverse ++ zs, pos + 2 * (k + 1)) := by
  induction k generalizing zs fuel pos seen with
  | zero =>
    obtain ⟨fuel, rfl⟩ := Nat.exists_eq_add_of_le' hfuel
    match zs, hlength with
    | [x, y, z], _ => exact (readZchars_pack_cons hzs hm fuel seen).2
  | succ k ih =>
    obtain ⟨fuel, rfl⟩ := Nat.exists_eq_add_of_le' (Nat.lt_of_le_of_lt (Nat.zero_le _) hfuel)
    match zs, hlength with
    | x :: y :: z :: rest, hlength =>
      obtain ⟨hrest, hstep⟩ := readZchars_pack_cons hzs hm fuel seen
      have hcount : rest.length = 3 * (k + 1) := by
        simp only [List.length_cons] at hlength
        omega
      have hmore : ¬ rest.isEmpty := by
        rw [List.isEmpty_iff]
        rintro rfl
        cases hcount
      have hbounds : ∀ i ∈ rest, i < 32 := fun i hi => hzs i (by simp [hi])
      rw [hstep, if_neg hmore, ih hbounds hcount (by omega) _ hrest]
      simp [Nat.mul_add, Nat.add_assoc, Nat.add_comm]

/-! ## The dictionary form -/

theorem length_dictionaryZchars (a : Alphabet) (word : List UInt8) :
    (dictionaryZchars a word).length = 9 := by
  unfold dictionaryZchars
  rw [List.length_take, List.length_append, List.length_replicate]
  omega

theorem zchar_lt_of_mem {word : List UInt8} {z : Nat} (h : z ∈ dictionaryZchars a word) :
    z < 32 := by
  obtain hspelled | hfill := List.mem_append.1 (List.mem_of_mem_take h)
  · obtain ⟨c, -, hc⟩ := List.mem_flatMap.1 hspelled
    exact zchar_lt_of_spell hc
  · rw [List.eq_of_mem_replicate hfill]
    decide

theorem length_pack (k : Nat) :
    ∀ {zs : List Nat}, zs.length = 3 * k → (pack zs).length = 2 * k := by
  induction k with
  | zero =>
    intro zs h
    rw [List.length_eq_zero_iff.1 h]
    rfl
  | succ k ih =>
    intro zs h
    match zs, h with
    | x :: y :: z :: rest, h =>
      have hrest : rest.length = 3 * k := by
        simp only [List.length_cons] at h
        omega
      rw [pack, List.length_append, length_wordBytes, ih hrest]
      omega

theorem length_dictionaryForm (a : Alphabet) (word : List UInt8) :
    (dictionaryForm a word).length = 6 :=
  length_pack 3 (length_dictionaryZchars a word)

/-- The z-string that a dictionary form is. -/
theorem read_dictionaryForm {m : Memory} {address : Nat} {word : List UInt8}
    (hm : m.Holds address (dictionaryForm a word)) :
    read m address = .ok (dictionaryZchars a word, address + 6) := by
  have hlength := length_dictionaryForm a word
  have hsize := hm.le_size fun h => by
    rw [h] at hlength
    cases hlength
  have hbounds : ∀ z ∈ dictionaryZchars a word, z < 32 := fun _ => zchar_lt_of_mem
  exact readZchars_pack 2 hbounds (length_dictionaryZchars a word) (by omega) [] hm

/-- What a dictionary form is read as, whatever abbreviations there are. -/
theorem expand_dictionaryZchars {word : List UInt8}
    (hword : ∀ c ∈ word, (t.toChar? c.toUInt16).isSome) :
    expand a t f 0 "" (dictionaryZchars a word) = .ok (textOf t (fitting a 9 word)) := by
  unfold dictionaryZchars
  rw [expand_word hword, String.empty_append]

/-- Words with one dictionary form are read alike. -/
theorem textOf_fitting_eq {word word' : List UInt8}
    (hword : ∀ c ∈ word, (t.toChar? c.toUInt16).isSome)
    (hword' : ∀ c ∈ word', (t.toChar? c.toUInt16).isSome)
    (h : dictionaryForm a word = dictionaryForm a word') :
    textOf t (fitting a 9 word) = textOf t (fitting a 9 word') := by
  let m : Memory := ⟨(dictionaryForm a word).toArray⟩
  have hm : m.Holds 0 (dictionaryForm a word) := fun i _ => by
    rw [Nat.zero_add]
    exact List.getElem?_toArray
  have hread := read_dictionaryForm hm
  rw [read_dictionaryForm (h ▸ hm)] at hread
  have hzs : dictionaryZchars a word' = dictionaryZchars a word :=
    congrArg Prod.fst (Except.ok.inj hread)
  have htext := expand_dictionaryZchars (a := a) (f := fun _ => .ok "") hword
  rw [← hzs, expand_dictionaryZchars hword'] at htext
  exact (Except.ok.inj htext).symm

end

/-- Wherever the dictionary form of a word is written, each code of which has a character, the text
of the longest part of the word that fits is read there and nothing else, six bytes long, as long as
the write leaves the alphabets and the extra characters in effect as they were.  No abbreviation is
asked for.  So words that have one dictionary form have longest parts of one text. -/
theorem dictionaryForm_read_back (m m' : Memory) (h : Header) (a : Alphabet) (t : ExtraChars)
    (address : Nat) (word : List UInt8) (ha : Alphabet.ofStory m h = .ok a)
    (ht : ExtraChars.ofStory m h = .ok t) (hword : ∀ c ∈ word, (t.toChar? c.toUInt16).isSome)
    (hwrite : Memory.writeBytes address (dictionaryForm a word) m = .ok () m')
    (hkeepa : Alphabet.ofStory m' h = Alphabet.ofStory m h)
    (hkeept : ExtraChars.ofStory m' h = ExtraChars.ofStory m h) :
    ∃ part, Longest a 9 word part ∧ decode m' h address = .ok ⟨textOf t part, address + 6⟩ ∧
      (∃ zs, read m' address = .ok (zs, address + 6) ∧
        ∀ f, expand a t f 0 "" zs = .ok (textOf t part)) ∧
      ∀ word' part', (∀ c ∈ word', (t.toChar? c.toUInt16).isSome) → Longest a 9 word' part' →
        dictionaryForm a word' = dictionaryForm a word → textOf t part' = textOf t part := by
  obtain ⟨hroom, rfl⟩ := Memory.writeBytes_eq_ok hwrite
  have hread := read_dictionaryForm (Memory.holds_setBytes hroom)
  refine ⟨_, longest_fitting a 9 word, ?_, ⟨_, hread, fun f => expand_dictionaryZchars hword⟩, ?_⟩
  · unfold decode
    rw [hkeepa, ha, hkeept, ht, hread]
    show (expand a t _ 0 "" (dictionaryZchars a word) >>= fun text => Except.ok _) = _
    rw [expand_dictionaryZchars hword]
    rfl
  · intro word' part' hword' hpart' hsame
    rw [hpart'.eq (longest_fitting a 9 word')]
    exact textOf_fitting_eq hword' hword hsame

namespace Plain

/-- A story with alphabets of its own, which are the standard ones, at address 0x80. -/
def memory : Memory :=
  .ofList (5 :: List.replicate 0x7F 0 ++ Alphabet.standardLetters ++ List.replicate 8 0)

def header : Header :=
  { (default : Header) with version := 5, alphabetTable := 0x80 }

theorem alphabet_eq : Alphabet.ofStory memory header = .ok .standard :=
  eq_ok_of_toOption (by decide +kernel)

theorem extra_eq (m : Memory) : ExtraChars.ofStory m header = .ok .standard :=
  rfl

/-- Eight letters and an at sign, which has no room. -/
def tooLong : List UInt8 :=
  [97, 98, 99, 100, 101, 102, 103, 104, 64]

end Plain

open Plain in
/-- The spelling of the last character is cut off after its first z-character. -/
theorem dictionaryForm_read_back_cut :
    Memory.writeBytes 0xCF (dictionaryForm .standard tooLong) memory =
        .ok () (memory.setBytes 0xCF (dictionaryForm .standard tooLong)) ∧
      decode (memory.setBytes 0xCF (dictionaryForm .standard tooLong)) header 0xCF =
        .ok ⟨"abcdefgh", 0xD5⟩ := by
  have hroom : 0xCF + (dictionaryForm .standard tooLong).length ≤ memory.size := by
    rw [length_dictionaryForm]
    decide +kernel
  have hwrite : Memory.writeBytes 0xCF (dictionaryForm .standard tooLong) memory =
      .ok () (memory.setBytes 0xCF (dictionaryForm .standard tooLong)) := if_pos hroom
  have hkeep : Alphabet.ofStory (memory.setBytes 0xCF (dictionaryForm .standard tooLong)) header =
      Alphabet.ofStory memory header :=
    (eq_ok_of_toOption (by decide +kernel)).trans alphabet_eq.symm
  obtain ⟨part, hpart, hdecode, -⟩ := dictionaryForm_read_back memory _ header .standard .standard
    0xCF tooLong alphabet_eq (extra_eq _) (by decide +kernel) hwrite hkeep
    ((extra_eq _).trans (extra_eq memory).symm)
  obtain rfl := hpart.eq (longest_fitting _ _ _)
  have htext : textOf .standard (fitting .standard 9 tooLong) = "abcdefgh" := by decide +kernel
  rw [htext] at hdecode
  exact ⟨hwrite, hdecode⟩

open Plain in
/-- Where the alphabets are written over, they are other ones when the text is read. -/
theorem dictionaryForm_not_always_read_back : ¬ ∀ (m m' : Memory) (h : Header) (a : Alphabet)
    (t : ExtraChars) (address : Nat) (word : List UInt8), Alphabet.ofStory m h = .ok a →
    ExtraChars.ofStory m h = .ok t → (∀ c ∈ word, (t.toChar? c.toUInt16).isSome) →
    Memory.writeBytes address (dictionaryForm a word) m = .ok () m' →
    ∃ part, Longest a 9 word part ∧ decode m' h address = .ok ⟨textOf t part, address + 6⟩ := by
  intro hall
  have hroom : 0x80 + (dictionaryForm .standard [97]).length ≤ memory.size := by
    rw [length_dictionaryForm]
    decide +kernel
  obtain ⟨part, hpart, hdecode⟩ := hall memory _ header .standard .standard 0x80 [97] alphabet_eq
    (extra_eq _) (by decide +kernel) (if_pos hroom)
  obtain rfl := hpart.eq (longest_fitting _ _ _)
  have htext : textOf .standard (fitting .standard 9 [97]) = "a" := by decide +kernel
  have hempty : decode (memory.setBytes 0x80 (dictionaryForm .standard [97])) header 0x80 =
      .ok ⟨"", 0x86⟩ := eq_ok_of_toOption (by decide +kernel)
  rw [hempty, htext] at hdecode
  exact absurd (congrArg Decoded.text (Except.ok.inj hdecode)) (by decide)

end ZMachine.ZString
