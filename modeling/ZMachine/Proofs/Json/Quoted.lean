import ZMachine.Json.Parser
import ZMachine.Json.Printer

/-!
# Strings are read back

A text is its bytes, and those of a string in quotes are read as the parts that make them up again:

    utf8 (quoted s) = 0x22 :: tail
    pieces [] (tail ++ rest) = some (ps, rest)        pieceText ps = some s

A character is a run of bytes or, for some of those below the space, one code unit.
-/

namespace ZMachine.Json

/-! ## Bytes of texts -/

/-- The bytes of a text. -/
def utf8 (s : String) : List UInt8 :=
  s.toUTF8.toList

theorem toList_loop_eq (bs : ByteArray) : ∀ (i : Nat) (r : List UInt8),
    ByteArray.toList.loop bs i r = r.reverse ++ bs.data.toList.drop i := by
  intro i r
  fun_induction ByteArray.toList.loop bs i r with
  | case1 i r h ih =>
    have hi : i < bs.data.toList.length := h
    have hget : bs.get! i = bs.data.toList[i] := by
      show bs.data[i]! = _
      rw [getElem!_pos bs.data i h, Array.getElem_toList]
    rw [ih, List.drop_eq_getElem_cons hi, hget, List.reverse_cons, List.append_assoc]
    rfl
  | case2 i r h =>
    have hi : bs.data.toList.length ≤ i := by
      have : ¬ i < bs.data.size := h
      simpa using this
    rw [List.drop_eq_nil_of_le hi, List.append_nil]

theorem toList_eq (bs : ByteArray) : bs.toList = bs.data.toList := by
  unfold ByteArray.toList
  rw [toList_loop_eq]
  rfl

@[simp] theorem utf8_empty : utf8 "" = [] := by
  unfold utf8
  rw [toList_eq]
  rfl

@[simp] theorem utf8_append (s t : String) : utf8 (s ++ t) = utf8 s ++ utf8 t := by
  unfold utf8
  simp only [toList_eq, String.toUTF8_eq_toByteArray, String.toByteArray_append]
  exact ByteArray.toList_data_append

@[simp] theorem utf8_ofList (cs : List Char) :
    utf8 (.ofList cs) = cs.flatMap String.utf8EncodeChar := by
  unfold utf8
  rw [toList_eq, String.toUTF8_eq_toByteArray, String.toByteArray_ofList]
  unfold List.utf8Encode
  exact List.toList_data_toByteArray

/-- The bytes of a text are those of its characters. -/
theorem utf8_eq (s : String) : utf8 s = s.toList.flatMap String.utf8EncodeChar := by
  rw [← utf8_ofList, String.ofList_toList]

@[simp] theorem utf8_push (s : String) (c : Char) :
    utf8 (s.push c) = utf8 s ++ String.utf8EncodeChar c := by
  rw [← String.append_singleton, utf8_append, String.singleton_eq_ofList, utf8_ofList]
  simp

/-- A text is found again from its bytes. -/
theorem fromUTF8_utf8 (cs : List Char) :
    String.fromUTF8? (cs.flatMap String.utf8EncodeChar).toByteArray = some (.ofList cs) := by
  have hvalid : (cs.flatMap String.utf8EncodeChar).toByteArray.IsValidUTF8 := .intro cs rfl
  unfold String.fromUTF8?
  rw [dif_pos hvalid]
  rfl

/-! ## Characters -/

/-- A byte that stands for itself in a string. -/
def IsPlain (b : UInt8) : Prop :=
  0x20 ≤ b ∧ b ≠ 0x22 ∧ b ≠ 0x5C

theorem isPlain_ofNat {n : Nat} (hlow : 32 ≤ n) (hlt : n < 256) (hquote : n ≠ 34)
    (hslash : n ≠ 92) : IsPlain (.ofNat n) := by
  have hnat : (UInt8.ofNat n).toNat = n := UInt8.toNat_ofNat_of_lt' hlt
  refine ⟨?_, ?_, ?_⟩
  · rw [UInt8.le_iff_toNat_le, hnat]
    exact hlow
  · intro heq
    rw [heq] at hnat
    exact hquote hnat.symm
  · intro heq
    rw [heq] at hnat
    exact hslash hnat.symm

theorem isPlain_high {n : Nat} (hlow : 128 ≤ n) (hlt : n < 256) : IsPlain (.ofNat n) :=
  isPlain_ofNat (by omega) hlt (by omega) (by omega)

/-- The bytes of a character above the space that needs no escape stand for themselves. -/
theorem utf8EncodeChar_plain {c : Char} (h : 32 ≤ c.toNat) (hquote : c ≠ '"')
    (hslash : c ≠ '\\') : ∀ b ∈ String.utf8EncodeChar c, IsPlain b := by
  have hq : c.toNat ≠ 34 := fun hc => hquote (Char.toNat_inj.1 hc)
  have hs : c.toNat ≠ 92 := fun hc => hslash (Char.toNat_inj.1 hc)
  have hlt : c.val.toNat < 0x110000 := by
    have hvalid := c.valid
    unfold UInt32.isValidChar Nat.isValidChar at hvalid
    omega
  unfold Char.toNat at h hq hs
  unfold String.utf8EncodeChar
  dsimp only
  intro b hb
  -- one byte, or two, three or four, all of which are high
  split at hb
  · obtain rfl := List.mem_singleton.1 hb
    exact isPlain_ofNat h (by omega) hq hs
  · split at hb
    · simp only [List.mem_cons, List.not_mem_nil, or_false] at hb
      rcases hb with rfl | rfl
      all_goals exact isPlain_high (by omega) (by omega)
    · split at hb
      · simp only [List.mem_cons, List.not_mem_nil, or_false] at hb
        rcases hb with rfl | rfl | rfl
        all_goals exact isPlain_high (by omega) (by omega)
      · simp only [List.mem_cons, List.not_mem_nil, or_false] at hb
        rcases hb with rfl | rfl | rfl | rfl
        all_goals exact isPlain_high (by omega) (by omega)

/-! ## Parts of a string -/

/-- What a character in a string is read as. -/
def charPieces (c : Char) : List Piece :=
  if c.toNat < 32 ∧ c ≠ '\n' ∧ c ≠ '\r' ∧ c ≠ '\t' ∧ c ≠ '\x08' ∧ c ≠ '\x0c' then [.unit c.toNat]
  else (String.utf8EncodeChar c).map .byte

theorem pieces_plain {bs : List UInt8} (h : ∀ b ∈ bs, IsPlain b) :
    ∀ (seen : List Piece) (rest : List UInt8),
      pieces seen (bs ++ rest) = pieces ((bs.map .byte).reverse ++ seen) rest := by
  induction bs with
  | nil => exact fun _ _ => rfl
  | cons b bs ih =>
    intro seen rest
    obtain ⟨hge, hquote, hslash⟩ := h b (List.mem_cons_self ..)
    have hstep : pieces seen (b :: (bs ++ rest)) = pieces (.byte b :: seen) (bs ++ rest) := by
      rw [pieces.eq_def]
      split
      · next heq => cases heq
      · next heq => exact absurd (List.cons.inj heq).1 hquote
      · next heq => exact absurd (List.cons.inj heq).1 hslash
      · next heq => exact absurd (List.cons.inj heq).1 hslash
      · next heq =>
        obtain ⟨rfl, rfl⟩ := List.cons.inj heq
        rw [if_neg (by simpa using hge)]
    rw [List.cons_append, hstep, ih (fun b' hb' => h b' (List.mem_cons_of_mem b hb'))]
    simp

/-- The number that the four digits of an escape stand for. -/
def digitsUnit : List UInt8 → Option Nat
  | [a, b, c, d] => hexUnit a b c d
  | _ => none

theorem digitsUnit_hex : ∀ n < 32, digitsUnit (utf8 (Numeral.hex 4 n)) = some n := by
  decide +kernel

/-- A code unit is read from its escape. -/
theorem pieces_unit {digits : List UInt8} {n : Nat} (h : digitsUnit digits = some n)
    (seen : List Piece) (rest : List UInt8) :
    pieces seen (0x5C :: 0x75 :: (digits ++ rest)) = pieces (.unit n :: seen) rest := by
  unfold digitsUnit at h
  split at h
  · rw [List.cons_append, List.cons_append, List.cons_append, List.cons_append, List.nil_append]
    rw [pieces, h]
  · cases h

/-- A byte is read from its escape of one letter. -/
theorem pieces_letter {b x : UInt8} (h : letterEscape b = some x) (seen : List Piece)
    (rest : List UInt8) :
    pieces seen (0x5C :: b :: rest) = pieces (.byte x :: seen) rest := by
  rw [pieces.eq_4, h]
  intro _ _ _ _ _ hb
  cases hb
  cases h

theorem pieces_escaped {s : String} {c : Char} {b x : UInt8} (hs : utf8 s = [0x5C, b])
    (hb : letterEscape b = some x) (hc : charPieces c = [.byte x]) (seen : List Piece)
    (rest : List UInt8) :
    pieces seen (utf8 s ++ rest) = pieces ((charPieces c).reverse ++ seen) rest := by
  rw [hs, hc]
  exact pieces_letter hb seen rest

/-- A character is read from the way it stands in a string. -/
theorem pieces_escapeChar (c : Char) (seen : List Piece) (rest : List UInt8) :
    pieces seen (utf8 (escapeChar c) ++ rest) = pieces ((charPieces c).reverse ++ seen) rest := by
  unfold escapeChar
  split
  · exact pieces_escaped (b := 0x22) (utf8_eq _) rfl rfl seen rest
  · exact pieces_escaped (b := 0x5C) (utf8_eq _) rfl rfl seen rest
  · exact pieces_escaped (b := 0x6E) (utf8_eq _) rfl rfl seen rest
  · exact pieces_escaped (b := 0x72) (utf8_eq _) rfl rfl seen rest
  · exact pieces_escaped (b := 0x74) (utf8_eq _) rfl rfl seen rest
  · exact pieces_escaped (b := 0x62) (utf8_eq _) rfl rfl seen rest
  · exact pieces_escaped (b := 0x66) (utf8_eq _) rfl rfl seen rest
  · next _ hquote hslash hn hr ht hb hf =>
    unfold charPieces
    by_cases hlow : c.toNat < 32
    · rw [if_pos hlow, if_pos ⟨hlow, hn, hr, ht, hb, hf⟩, utf8_append,
        show utf8 "\\u" = [0x5C, 0x75] from utf8_eq _]
      exact pieces_unit (digitsUnit_hex c.toNat hlow) seen rest
    · rw [if_neg hlow, if_neg (fun h => hlow h.1),
        show utf8 c.toString = String.utf8EncodeChar c from by rw [utf8_eq]; simp [Char.toString]]
      exact pieces_plain (utf8EncodeChar_plain (by omega) hquote hslash) seen rest

/-- Characters are read from the way they stand in a string. -/
theorem pieces_escaped_chars (cs : List Char) :
    ∀ (seen : List Piece) (rest : List UInt8),
      pieces seen (cs.flatMap (fun c => utf8 (escapeChar c)) ++ 0x22 :: rest) =
        some (seen.reverse ++ cs.flatMap charPieces, rest) := by
  induction cs with
  | nil =>
    intro seen rest
    show pieces seen (0x22 :: rest) = _
    rw [pieces]
    simp
  | cons c cs ih =>
    intro seen rest
    rw [List.flatMap_cons, List.append_assoc, pieces_escapeChar, ih]
    simp

theorem assemble_bytes (bs : List UInt8) (ps : List Piece) :
    ∀ out : ByteArray, assemble out none (bs.map .byte ++ ps) = assemble (bs.foldl .push out) none ps := by
  induction bs with
  | nil => exact fun _ => rfl
  | cons b bs ih =>
    intro out
    exact ih (out.push b)

/-- What a character is read as makes up its bytes. -/
theorem assemble_charPieces (c : Char) (ps : List Piece) (out : ByteArray) :
    assemble out none (charPieces c ++ ps) =
      assemble ((String.utf8EncodeChar c).foldl .push out) none ps := by
  unfold charPieces
  split
  · next h =>
    have hlead : isLeading c.toNat = false := by
      unfold isLeading
      simp
      omega
    have htrail : isTrailing c.toNat = false := by
      unfold isTrailing
      simp
      omega
    show assemble out none (.unit c.toNat :: ps) = _
    rw [assemble]
    simp only [hlead, htrail, Bool.false_eq_true, if_false]
    unfold unitBytes
    rw [Char.ofNat_toNat]
  · exact assemble_bytes _ ps out

theorem toList_foldl_push (bs : List UInt8) :
    ∀ out : ByteArray, (bs.foldl .push out).data.toList = out.data.toList ++ bs := by
  induction bs with
  | nil =>
    intro out
    rw [List.append_nil]
    rfl
  | cons b bs ih =>
    intro out
    rw [List.foldl_cons, ih]
    show (out.data.push b).toList ++ bs = _
    rw [Array.toList_push, List.append_assoc]
    rfl

/-- The text of a string is read back. -/
theorem pieceText_charPieces (cs : List Char) :
    pieceText (cs.flatMap charPieces) = some (.ofList cs) := by
  have hall (cs : List Char) : ∀ out : ByteArray, assemble out none (cs.flatMap charPieces) =
      some ((cs.flatMap String.utf8EncodeChar).foldl .push out) := by
    induction cs with
    | nil => exact fun _ => rfl
    | cons c cs ih =>
      intro out
      rw [List.flatMap_cons, assemble_charPieces, ih, List.flatMap_cons, List.foldl_append]
  have hbytes : (cs.flatMap String.utf8EncodeChar).foldl ByteArray.push .empty =
      (cs.flatMap String.utf8EncodeChar).toByteArray := by
    apply ByteArray.ext
    apply Array.ext'
    rw [toList_foldl_push, List.toList_data_toByteArray]
    rfl
  unfold pieceText
  rw [hall cs .empty, hbytes]
  exact fromUTF8_utf8 cs

theorem utf8_quoted (s : String) :
    utf8 (quoted s) = 0x22 :: (s.toList.flatMap (fun c => utf8 (escapeChar c)) ++ [0x22]) := by
  have hfold (cs : List Char) : ∀ out : String,
      utf8 (cs.foldl (fun out c => out ++ escapeChar c) out) =
        utf8 out ++ cs.flatMap (fun c => utf8 (escapeChar c)) := by
    induction cs with
    | nil =>
      intro out
      simp
    | cons c cs ih =>
      intro out
      rw [List.foldl_cons, ih, utf8_append, List.flatMap_cons, List.append_assoc]
  unfold quoted
  rw [utf8_push, hfold, show utf8 "\"" = [0x22] from utf8_eq _]
  rfl

/-- A string in quotes is read back. -/
theorem pieces_quoted (s : String) (rest : List UInt8) :
    ∃ tail ps, utf8 (quoted s) = 0x22 :: tail ∧ pieces [] (tail ++ rest) = some (ps, rest) ∧
      pieceText ps = some s := by
  refine ⟨_, s.toList.flatMap charPieces, utf8_quoted s, ?_, ?_⟩
  · rw [List.append_assoc]
    exact pieces_escaped_chars s.toList [] rest
  · rw [pieceText_charPieces, String.ofList_toList]

end ZMachine.Json
