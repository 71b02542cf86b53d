import Mathlib.Logic.Basic
import ZMachine.Text.Key
import ZMachine.Proofs.Action

/-!
# Codes of characters and back

A character gets its code in three places: `ofChar?` finds it, a text is written with one byte for
each character, and a key that is a character is given to the story as a word.  A code is read back
by `toChar?`.  Where no table decides, and where the place in the table has a code up to the last
one, the byte and the word are the same and are read back:

    encodeChar t c = z      keyCode m h (.char c) = .ok z      toChar? t z = some (asRead c)

A story's own table may be longer.  Its next places have codes that are bytes and that nothing is
read back from; the places after these have codes that are words only.
-/

namespace ZMachine

namespace Zscii

/-- Whether a code is one of text: a newline, printable ASCII, or an extra character. -/
def IsTextCode (code : UInt16) : Prop :=
  code = newline ∨ (32 ≤ code.toNat ∧ code.toNat ≤ 126) ∨
    (firstExtra ≤ code.toNat ∧ code.toNat ≤ lastExtra)

instance (code : UInt16) : Decidable (IsTextCode code) :=
  inferInstanceAs (Decidable (_ ∨ _))

/-- Whether a character has the same code in each story. -/
def IsPlain (c : Char) : Prop :=
  c = '\n' ∨ c = '\r' ∨ (32 ≤ c.toNat ∧ c.toNat ≤ 126)

instance (c : Char) : Decidable (IsPlain c) :=
  inferInstanceAs (Decidable (_ ∨ _))

/-- The character that the code of a character is read as. -/
def asRead (c : Char) : Char :=
  if c = '\r' then '\n' else c

theorem asRead_of_not_plain {c : Char} (h : ¬ IsPlain c) : asRead c = c :=
  if_neg fun hc => h (.inr (.inl hc))

theorem isTextCode_question : IsTextCode question.toUInt16 := by decide

end Zscii

open Zscii

namespace ExtraChars

/-- The number of the code that a character has from its first place in the table, if it is not
plain and has one. -/
def extraCode? (t : ExtraChars) (c : Char) : Option Nat :=
  if IsPlain c then none else (t.chars.idxOf? c).map (firstExtra + ·)

/-- Whether a character has no code from the table that is greater than `bound`. -/
def CodeUpTo (t : ExtraChars) (bound : Nat) (c : Char) : Prop :=
  ∀ n ∈ t.extraCode? c, n ≤ bound

instance (t : ExtraChars) (bound : Nat) (c : Char) : Decidable (t.CodeUpTo bound c) :=
  inferInstanceAs (Decidable (∀ n ∈ t.extraCode? c, n ≤ bound))

theorem codeUpTo_of_none {t : ExtraChars} {c : Char} (h : t.extraCode? c = none) (bound : Nat) :
    t.CodeUpTo bound c := by
  intro n hn
  rw [h] at hn
  cases hn

theorem codeUpTo_iff {t : ExtraChars} {c : Char} {n : Nat} (h : t.extraCode? c = some n)
    (bound : Nat) : t.CodeUpTo bound c ↔ n ≤ bound := by
  unfold CodeUpTo
  rw [h]
  exact ⟨fun hall => hall n rfl, fun hn _ hm => Option.some.inj hm ▸ hn⟩

/-! ## The codes that are found -/

theorem ofChar?_of_plain (t : ExtraChars) {c : Char} (h : IsPlain c) :
    ∃ z, t.ofChar? c = some z ∧ z ≤ 255 ∧ IsTextCode z ∧
      t.toChar? z = some (asRead c) := by
  unfold ofChar?
  by_cases hline : c = '\n' ∨ c = '\r'
  · rw [if_pos hline]
    refine ⟨newline, rfl, by decide, .inl rfl, ?_⟩
    obtain rfl | rfl := hline <;> rfl
  · have hrange : 32 ≤ c.toNat ∧ c.toNat ≤ 126 := by
      obtain h | h | h := h
      · exact absurd (.inl h) hline
      · exact absurd (.inr h) hline
      · exact h
    have hcode : (UInt16.ofNat c.toNat).toNat = c.toNat :=
      UInt16.toNat_ofNat_of_lt' (Nat.lt_of_le_of_lt hrange.2 (by decide))
    have hnewline : UInt16.ofNat c.toNat ≠ newline := by
      intro h13
      rw [h13] at hcode
      exact absurd hrange.1 (hcode ▸ by decide)
    rw [if_neg hline, if_pos hrange]
    refine ⟨_, rfl, ?_, .inr (.inl (by rwa [hcode])), ?_⟩
    · rw [UInt16.le_iff_toNat_le, hcode]
      exact Nat.le_trans hrange.2 (by decide)
    · unfold toChar?
      dsimp only
      rw [if_neg hnewline, hcode, if_pos hrange, Char.ofNat_toNat]
      exact congrArg some (if_neg fun hc => hline (.inr hc)).symm

/-- The code of a character that is not plain is that of its place. -/
theorem ofChar?_of_not_plain (t : ExtraChars) {c : Char} (h : ¬ IsPlain c) :
    t.ofChar? c = (t.extraCode? c).map .ofNat := by
  unfold ofChar? extraCode?
  rw [if_neg h, if_neg, if_neg, Option.map_map]
  · rfl
  · exact fun hrange => h (.inr (.inr hrange))
  · rintro (hc | hc)
    · exact h (.inl hc)
    · exact h (.inr (.inl hc))

/-- What the codes of the table are: one for each place, from the first code on. -/
theorem exists_place {t : ExtraChars} {c : Char} {n : Nat} (h : t.extraCode? c = some n) :
    ∃ i < t.chars.length, n = firstExtra + i ∧ t.chars[i]? = some c := by
  unfold extraCode? at h
  split at h
  · cases h
  · obtain ⟨i, hi, rfl⟩ := Option.map_eq_some_iff.1 h
    obtain ⟨hlength, hc, -⟩ := List.idxOf?_eq_some_iff.1 hi
    exact ⟨i, hlength, rfl, by rw [List.getElem?_eq_getElem hlength, hc]⟩

/-- The code of a place is one of text, and is read back, just if it is not after the last one. -/
theorem toChar?_place (t : ExtraChars) {i : Nat} (h : firstExtra + i < 65536) :
    (IsTextCode (.ofNat (firstExtra + i)) ↔ firstExtra + i ≤ lastExtra) ∧
      t.toChar? (.ofNat (firstExtra + i)) =
        if firstExtra + i ≤ lastExtra then t.chars[i]? else none := by
  have hcode : (UInt16.ofNat (firstExtra + i)).toNat = firstExtra + i :=
    UInt16.toNat_ofNat_of_lt' h
  have hfirst : firstExtra = 155 := rfl
  have hnewline : UInt16.ofNat (firstExtra + i) ≠ newline := by
    intro h13
    have h155 : (13 : Nat) = firstExtra + i := by rw [← hcode, h13]; rfl
    omega
  unfold toChar? IsTextCode
  dsimp only
  rw [hcode]
  constructor
  · constructor
    · rintro (h13 | hrange | hrange)
      · exact absurd h13 hnewline
      · omega
      · exact hrange.2
    · exact fun hlast => .inr (.inr ⟨Nat.le_add_right _ _, hlast⟩)
  · rw [if_neg hnewline, if_neg (by omega), Nat.add_sub_cancel_left]
    simp only [Nat.le_add_right, true_and]

/-! ## The table of a story -/

theorem length_readTable {m : Memory} {count : Nat} : ∀ {address : Nat} {chars : List Char},
    readTable m address count = .ok chars → chars.length = count := by
  induction count with
  | zero =>
    intro address chars h
    cases h
    rfl
  | succ count ih =>
    intro address chars h
    obtain ⟨code, -, h⟩ := except_bind_eq_ok h
    obtain ⟨rest, hrest, h⟩ := except_bind_eq_ok h
    cases h
    exact congrArg (· + 1) (ih hrest)

/-- A table is counted by a byte. -/
theorem length_le_of_ofStory {m : Memory} {h : Header} {t : ExtraChars}
    (ht : ofStory m h = .ok t) : t.chars.length ≤ 255 := by
  have hstandard : standard.chars.length ≤ 255 := by decide +kernel
  unfold ofStory at ht
  obtain ⟨table, -, ht⟩ := except_bind_eq_ok ht
  cases table with
  | none => exact Except.ok.inj ht ▸ hstandard
  | some table =>
    dsimp only at ht
    split at ht
    · exact Except.ok.inj ht ▸ hstandard
    · obtain ⟨count, -, ht⟩ := except_bind_eq_ok ht
      obtain ⟨chars, hchars, ht⟩ := except_bind_eq_ok ht
      cases ht
      rw [length_readTable hchars]
      exact Nat.le_of_lt_succ count.toNat_lt

end ExtraChars

namespace ExtraChars

/-! ## Keys and bytes -/

/-- The code of a character as a key. -/
def typed (t : ExtraChars) (c : Char) : UInt16 :=
  (t.ofChar? c).getD question.toUInt16

theorem keyCode_char {m : Memory} {h : Header} {t : ExtraChars} (ht : ofStory m h = .ok t)
    (c : Char) : keyCode m h (.char c) = .ok (t.typed c) := by
  unfold keyCode
  rw [ht]
  rfl

/-- Whether a code is the question mark or is read as the character. -/
def ReadsBack (t : ExtraChars) (c : Char) (code : UInt16) : Prop :=
  code = question.toUInt16 ∨ t.toChar? code = some (asRead c)

theorem typed_of_none {t : ExtraChars} {c : Char} (h : t.extraCode? c = none) :
    t.typed c ≤ 255 ∧ IsTextCode (t.typed c) ∧ t.ReadsBack c (t.typed c) := by
  unfold typed
  by_cases hplain : IsPlain c
  · obtain ⟨z, hz, hbyte, htext, hread⟩ := t.ofChar?_of_plain hplain
    rw [hz]
    exact ⟨hbyte, htext, .inr hread⟩
  · rw [t.ofChar?_of_not_plain hplain, h]
    exact ⟨by decide, isTextCode_question, .inl rfl⟩

theorem typed_of_some {t : ExtraChars} {c : Char} {n : Nat} (hlength : t.chars.length ≤ 255)
    (h : t.extraCode? c = some n) :
    (t.typed c).toNat = n ∧ (IsTextCode (t.typed c) ↔ n ≤ lastExtra) ∧
      (t.ReadsBack c (t.typed c) ↔ n ≤ lastExtra) := by
  obtain ⟨i, hi, rfl, hc⟩ := exists_place h
  have hplain : ¬ IsPlain c := fun hplain => by
    rw [extraCode?, if_pos hplain] at h
    cases h
  have hfirst : firstExtra = 155 := rfl
  have hword : firstExtra + i < 65536 := by omega
  have hcode : (UInt16.ofNat (firstExtra + i)).toNat = firstExtra + i :=
    UInt16.toNat_ofNat_of_lt' hword
  obtain ⟨htext, hread⟩ := t.toChar?_place hword
  have hquestion : UInt16.ofNat (firstExtra + i) ≠ question.toUInt16 := by
    intro h63
    have : firstExtra + i = 63 := by rw [← hcode, h63]; rfl
    omega
  have htyped : t.typed c = .ofNat (firstExtra + i) := by
    unfold typed
    rw [t.ofChar?_of_not_plain hplain, h]
    rfl
  unfold ReadsBack
  rw [htyped, asRead_of_not_plain hplain, hread, hc]
  refine ⟨hcode, htext, ?_⟩
  by_cases hlast : firstExtra + i ≤ lastExtra
  · rw [if_pos hlast]
    exact iff_of_true (.inr rfl) hlast
  · rw [if_neg hlast]
    refine iff_of_false ?_ hlast
    rintro (h63 | hnone)
    · exact hquestion h63
    · cases hnone

/-- How far the code of a character as a key goes is told by its code from the table. -/
theorem typed_spec {t : ExtraChars} (hlength : t.chars.length ≤ 255) (c : Char) :
    (t.typed c ≤ 255 ↔ t.CodeUpTo 255 c) ∧
      (IsTextCode (t.typed c) ↔ t.CodeUpTo lastExtra c) ∧
      (t.ReadsBack c (t.typed c) ↔ t.CodeUpTo lastExtra c) := by
  cases h : t.extraCode? c with
  | none =>
    obtain ⟨hbyte, htext, hread⟩ := typed_of_none h
    have hup := codeUpTo_of_none h
    exact ⟨iff_of_true hbyte (hup _), iff_of_true htext (hup _), iff_of_true hread (hup _)⟩
  | some n =>
    obtain ⟨hn, htext, hread⟩ := typed_of_some hlength h
    rw [codeUpTo_iff h, codeUpTo_iff h, UInt16.le_iff_toNat_le, hn]
    exact ⟨Iff.rfl, htext, hread⟩

/-- The byte of a character is its code as a key, or the question mark where that is no byte. -/
theorem encodeChar_eq (t : ExtraChars) (c : Char) :
    t.encodeChar c = if t.typed c ≤ 255 then (t.typed c).toUInt8 else question := by
  unfold encodeChar typed
  cases t.ofChar? c with
  | none => rfl
  | some code => rfl

theorem encodeChar_spec (t : ExtraChars) (c : Char) :
    (t.typed c = (t.encodeChar c).toUInt16 ↔ t.typed c ≤ 255) ∧
      (IsTextCode (t.encodeChar c).toUInt16 ↔
        (t.typed c ≤ 255 → IsTextCode (t.typed c))) := by
  rw [encodeChar_eq]
  generalize t.typed c = z
  by_cases hbyte : z ≤ 255
  · have hback : z.toUInt8.toUInt16 = z := by
      rw [UInt16.le_iff_toNat_le] at hbyte
      apply UInt16.toNat_inj.1
      rw [UInt8.toNat_toUInt16, UInt16.toNat_toUInt8]
      exact Nat.mod_eq_of_lt (Nat.lt_succ_of_le hbyte)
    rw [if_pos hbyte, hback]
    exact ⟨iff_of_true rfl hbyte, fun h _ => h, fun h => h hbyte⟩
  · rw [if_neg hbyte]
    refine ⟨iff_of_false (fun h => hbyte (h ▸ by decide)) hbyte, ?_⟩
    exact iff_of_true isTextCode_question (fun h => absurd h hbyte)

theorem CodeUpTo.mono {t : ExtraChars} {c : Char} {bound bound' : Nat} (h : t.CodeUpTo bound c)
    (hle : bound ≤ bound') : t.CodeUpTo bound' c :=
  fun n hn => Nat.le_trans (h n hn) hle

/-- Whatever table is in effect, each character has a code as a key and a byte in a text.  They are
the same number, and it is the question mark or is read back as the character, just if the character
has no code from the table after the last one. -/
theorem codes_read_back (m : Memory) (h : Header) (t : ExtraChars) (ht : ofStory m h = .ok t) :
    (∀ c, ∃ z b, keyCode m h (.char c) = .ok z ∧ t.encode (String.singleton c) = [b] ∧
      (z = b.toUInt16 ∧ t.ReadsBack c z ↔ t.CodeUpTo lastExtra c) ∧
      (z = b.toUInt16 ↔ t.CodeUpTo 255 c) ∧ (IsTextCode z ↔ t.CodeUpTo lastExtra c)) ∧
    ∀ text, (∀ b ∈ t.encode text, IsTextCode b.toUInt16) ↔
      ∀ c ∈ text.toList, t.CodeUpTo 255 c → t.CodeUpTo lastExtra c := by
  have hspec := typed_spec (length_le_of_ofStory ht)
  constructor
  · intro c
    obtain ⟨hbyte, htext, hread⟩ := hspec c
    have hsame := (t.encodeChar_spec c).1.trans hbyte
    refine ⟨t.typed c, t.encodeChar c, keyCode_char ht c, ?_, ?_, hsame, htext⟩
    · unfold encode
      rw [String.toList_singleton]
      rfl
    · rw [hsame, hread]
      exact ⟨And.right, fun hup => ⟨hup.mono (by decide), hup⟩⟩
  · intro text
    unfold encode
    rw [List.forall_mem_map]
    refine forall₂_congr fun c _ => ?_
    rw [(t.encodeChar_spec c).2, (hspec c).1, (hspec c).2.1]

namespace Overlong

/-- A table of 102 characters, the last five of which have codes after the last one. -/
def table : ExtraChars :=
  ⟨(List.range 102).map fun i => Char.ofNat (0x400 + i)⟩

/-- A header that leads to an extension table of three words, the third of them to the table. -/
def memory : Memory :=
  .ofList ([5] ++ List.replicate 0x35 0 ++ [0, 0x40] ++ List.replicate 8 0
    ++ [0, 3, 0, 0, 0, 0, 0, 0x48] ++ 102 :: (List.range 102).flatMap fun i => [4, .ofNat i])

def header : Header :=
  { (default : Header) with version := 5, extension := 0x40, extensionCount := 3 }

theorem ofStory_eq : ofStory memory header = .ok table :=
  eq_ok_of_toOption (by decide +kernel)

end Overlong

open Overlong in
/-- The first character of the table is read back, the one with code 252 is not, and the last one
has another code as a key than in a text. -/
theorem codes_read_back_overlong :
    ofStory memory header = .ok table ∧
      (∃ z b, keyCode memory header (.char 'Ѐ') = .ok z ∧ table.encode "Ѐ" = [b] ∧
        z = b.toUInt16 ∧ table.ReadsBack 'Ѐ' z) ∧
      (∃ z b, keyCode memory header (.char 'ѡ') = .ok z ∧ table.encode "ѡ" = [b] ∧
        z = b.toUInt16 ∧ ¬ IsTextCode z) ∧
      (∃ z b, keyCode memory header (.char 'ѥ') = .ok z ∧ table.encode "ѥ" = [b] ∧
        z ≠ b.toUInt16) := by
  have hcodes := (codes_read_back memory header table ofStory_eq).1
  refine ⟨ofStory_eq, ?_, ?_, ?_⟩
  · obtain ⟨z, b, hz, hb, hread, -, -⟩ := hcodes 'Ѐ'
    exact ⟨z, b, hz, hb, hread.2 (by decide +kernel)⟩
  · obtain ⟨z, b, hz, hb, -, hsame, htext⟩ := hcodes 'ѡ'
    exact ⟨z, b, hz, hb, hsame.2 (by decide +kernel), mt htext.1 (by decide +kernel)⟩
  · obtain ⟨z, b, hz, hb, -, hsame, -⟩ := hcodes 'ѥ'
    exact ⟨z, b, hz, hb, mt hsame.1 (by decide +kernel)⟩

open Overlong in
/-- A character at a place after the last code has one code as a key and another in a text. -/
theorem codes_not_always_read_back : ¬ ∀ (m : Memory) (h : Header) (t : ExtraChars),
    ofStory m h = .ok t → ∀ c, ∃ z b, keyCode m h (.char c) = .ok z ∧
      t.encode (String.singleton c) = [b] ∧ z = b.toUInt16 ∧ t.ReadsBack c z := by
  intro h
  obtain ⟨z, b, hz, -, hsame, -⟩ := h memory header table ofStory_eq 'ѥ'
  have h256 : table.typed 'ѥ' = 256 := by decide +kernel
  rw [keyCode_char ofStory_eq, h256] at hz
  obtain rfl : 256 = z := Except.ok.inj hz
  have hb := b.toNat_lt
  have hnat := congrArg UInt16.toNat hsame
  rw [UInt8.toNat_toUInt16] at hnat
  exact absurd hnat (Nat.ne_of_gt hb)

end ExtraChars
end ZMachine
