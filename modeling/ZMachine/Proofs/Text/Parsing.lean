import ZMachine.Proofs.Text.Dictionary
import ZMachine.Proofs.Text.Words

/-!
# Parsing a line

The parse buffer has a slot of four bytes for each word that it has room for:

    parse               how many words there is room for
    parse + 1           how many words were recorded
    parse + 2 + 4 i     the entry of word i, its length and its position in the text buffer

Words are looked for while slots are written.  The entries lie apart from the slots, so that each
word is looked for among the entries there were at the start:

    tokenise h buffer parse dictionary skipUnknown m = .ok () m'   →
      Parsed d a text room skipUnknown parse m m'

Whatever the dictionary, nothing but the slots of recorded words and their number is written.
-/

namespace ZMachine

open Memory

/-! ## One slot -/

/-- The bytes of the slot of a word. -/
def slotBytes (entry : Nat) (t : Token) : List UInt8 :=
  wordBytes (.ofNat entry) ++ [.ofNat t.length, t.position]

theorem writeSlot_eq_ok {slot entry : Nat} {t : Token} {m m' : Memory}
    (h : writeSlot slot entry t m = .ok () m') :
    slot + 4 ≤ m.size ∧ m' = m.setBytes slot (slotBytes entry t) := by
  obtain ⟨⟨⟩, m₁, hword, h⟩ := bind_eq_ok h
  obtain ⟨⟨⟩, m₂, hlength, hposition⟩ := bind_eq_ok h
  obtain ⟨-, rfl⟩ := write16_eq_ok hword
  obtain ⟨-, rfl⟩ := write8_eq_ok hlength
  obtain ⟨hroom, rfl⟩ := write8_eq_ok hposition
  rw [size_setBytes, size_setBytes] at hroom
  refine ⟨hroom, ?_⟩
  rw [slotBytes, setBytes_append]
  rfl

/-- What is left of a memory after the turn of a word: its slot is written, unless the word is not
listed and such words are skipped. -/
inductive Entered (skip : Bool) (slot entry : Nat) (t : Token) (m : Memory) : Memory → Prop
  | skipped (hskip : entry = 0 ∧ skip = true) : Entered skip slot entry t m m
  | written (hwrite : ¬ (entry = 0 ∧ skip = true)) (hroom : slot + 4 ≤ m.size) :
      Entered skip slot entry t m (m.setBytes slot (slotBytes entry t))

section
variable {skip : Bool} {slot entry : Nat} {t : Token} {m m₁ m' : Memory}

theorem Entered.size_eq (h : Entered skip slot entry t m m₁) : m₁.size = m.size := by
  cases h with
  | skipped => rfl
  | written => exact size_setBytes m slot _

theorem Entered.agree (h : Entered skip slot entry t m m₁) {start stop : Nat}
    (hapart : stop ≤ slot ∨ slot + 4 ≤ start) : Agree m m₁ start stop := by
  cases h with
  | skipped => exact .refl m start stop
  | written => exact m.agree_setBytes _ hapart

/-- What the slot of a word holds when all is written. -/
structure Filled (skip : Bool) (slot entry : Nat) (t : Token) (m m' : Memory) : Prop where
  skipped : entry = 0 ∧ skip = true → Agree m m' slot (slot + 4)
  written : ¬ (entry = 0 ∧ skip = true) → m'.Holds slot (slotBytes entry t)

theorem Filled.agree {m'' : Memory} (h : Filled skip slot entry t m m')
    (hlater : Agree m' m'' slot (slot + 4)) : Filled skip slot entry t m m'' where
  skipped hskip := (h.skipped hskip).trans hlater
  written hwrite := (h.written hwrite).agree (Nat.le_refl _) hlater

/-- A slot stays as it was left if nothing is written to it afterwards. -/
theorem Entered.filled (h : Entered skip slot entry t m m₁)
    (hlater : Agree m₁ m' slot (slot + 4)) : Filled skip slot entry t m m' := by
  refine Filled.agree ?_ hlater
  cases h with
  | skipped hskip => exact ⟨fun _ => .refl _ _ _, fun hwrite => absurd hskip hwrite⟩
  | written hwrite hroom =>
    exact ⟨fun hskip => absurd hskip hwrite, fun _ => holds_setBytes hroom⟩

end

/-! ## All slots -/

section
variable {d : Dictionary} {a : Alphabet} {text : List UInt8} {skip : Bool} {slot : Nat}
  {m m' : Memory}

/-- The words take their turns from the first one on. -/
theorem writeSlots_cons {t : Token} {rest : List Token}
    (h : writeSlots d a text skip slot (t :: rest) m = .ok () m') :
    ∃ entry m₁, d.lookup m (ZString.dictionaryForm a (t.bytes text)) = .ok entry ∧
      Entered skip slot entry t m m₁ ∧ writeSlots d a text skip (slot + 4) rest m₁ = .ok () m' := by
  unfold writeSlots at h
  rw [get_bind] at h
  obtain ⟨entry, hentry, hturn⟩ := read_bind_eq_ok h
  by_cases hskip : entry = 0 ∧ skip = true
  · rw [if_neg (by simpa using hskip)] at hturn
    exact ⟨entry, m, hentry, .skipped hskip, hturn⟩
  · rw [if_pos (by simpa [Classical.or_iff_not_imp_left] using hskip)] at hturn
    obtain ⟨⟨⟩, m₁, hslot, hrest⟩ := bind_eq_ok hturn
    obtain ⟨hroom, rfl⟩ := writeSlot_eq_ok hslot
    exact ⟨entry, _, hentry, .written hskip hroom, hrest⟩

theorem writeSlots_size_eq {words : List Token}
    (h : writeSlots d a text skip slot words m = .ok () m') : m'.size = m.size := by
  induction words generalizing slot m with
  | nil =>
    cases h
    rfl
  | cons t rest ih =>
    obtain ⟨entry, m₁, -, hturn, hrest⟩ := writeSlots_cons h
    rw [ih hrest, hturn.size_eq]

/-- Nothing but the slots of the words is written. -/
theorem writeSlots_agree {words : List Token} {start stop : Nat}
    (h : writeSlots d a text skip slot words m = .ok () m')
    (hapart : stop ≤ slot ∨ slot + 4 * words.length ≤ start) : Agree m m' start stop := by
  induction words generalizing slot m with
  | nil =>
    cases h
    exact .refl _ start stop
  | cons t rest ih =>
    obtain ⟨entry, m₁, -, hturn, hrest⟩ := writeSlots_cons h
    rw [List.length_cons] at hapart
    exact (hturn.agree (by omega)).trans (ih hrest (by omega))

/-- Each word is looked for among the entries there were at the start, and its slot is filled with
what was found. -/
theorem writeSlots_filled {m₀ : Memory} {words : List Token}
    (hkeys : ∀ i < d.count.natAbs, m.readBytes (d.entry i) 6 = m₀.readBytes (d.entry i) 6)
    (hapart : ∀ i < d.count.natAbs,
      d.entry i + 6 ≤ slot ∨ slot + 4 * words.length ≤ d.entry i)
    (h : writeSlots d a text skip slot words m = .ok () m') {i : Nat} {t : Token}
    (ht : words[i]? = some t) :
    ∃ entry, d.lookup m₀ (ZString.dictionaryForm a (t.bytes text)) = .ok entry ∧
      Filled skip (slot + 4 * i) entry t m m' := by
  induction words generalizing slot m i with
  | nil => simp at ht
  | cons t' rest ih =>
    obtain ⟨entry, m₁, hentry, hturn, hrest⟩ := writeSlots_cons h
    rw [List.length_cons] at hapart
    cases i with
    | zero =>
      obtain rfl : t' = t := Option.some.inj ht
      refine ⟨entry, ?_, hturn.filled (writeSlots_agree hrest (.inl (Nat.le_refl _)))⟩
      rwa [← Dictionary.lookup_congr _ hkeys]
    | succ i =>
      have hkeys' (j : Nat) (hj : j < d.count.natAbs) :
          m₁.readBytes (d.entry j) 6 = m₀.readBytes (d.entry j) 6 := by
        have hsame : Agree m m₁ (d.entry j) (d.entry j + 6) :=
          hturn.agree (by have := hapart j hj; omega)
        rw [hsame.readBytes_eq hturn.size_eq, hkeys j hj]
      have hapart' (j : Nat) (hj : j < d.count.natAbs) :
          d.entry j + 6 ≤ slot + 4 ∨ slot + 4 + 4 * rest.length ≤ d.entry j := by
        have := hapart j hj
        omega
      obtain ⟨entry', hentry', hfilled⟩ := ih hkeys' hapart' hrest ht
      rw [show slot + 4 + 4 * i = slot + 4 * (i + 1) by omega] at hfilled
      have hbefore : Agree m m₁ (slot + 4 * (i + 1)) (slot + 4 * (i + 1) + 4) :=
        hturn.agree (by omega)
      exact ⟨entry', hentry', fun hskip => hbefore.trans (hfilled.skipped hskip),
        hfilled.written⟩

end

/-! ## What a parse buffer reports -/

/-- What a slot reports of a word. -/
structure Reports (m : Memory) (slot entry : Nat) (t : Token) : Prop where
  entry : ∃ w, m.read16 slot = .ok w ∧ w.toNat = entry
  length : ∃ b, m.read8 (slot + 2) = .ok b ∧ b.toNat = t.length
  position : ∃ b, m.read8 (slot + 3) = .ok b ∧ b.toNat = min (t.start + 2) 255

/-- The bytes of a slot report what they were written for, where they can hold it. -/
theorem reports_of_holds {m : Memory} {slot entry : Nat} {t : Token}
    (h : m.Holds slot (slotBytes entry t)) (hentry : entry < 65536) (hlength : t.length < 256) :
    Reports m slot entry t := by
  obtain ⟨hword, hrest⟩ := (m.holds_append slot _ _).1 h
  obtain ⟨hlen, hpos⟩ := (m.holds_cons (slot + 2) _ _).1 hrest
  refine ⟨⟨_, (m.holds_wordBytes slot _).1 hword, UInt16.toNat_ofNat_of_lt' hentry⟩,
    ⟨_, hlen, UInt8.toNat_ofNat_of_lt' hlength⟩, ⟨_, (m.holds_singleton _ _).1 hpos, ?_⟩⟩
  unfold Token.position
  rw [UInt8.toNat_ofNat_of_lt' (Nat.lt_succ_of_le (Nat.min_le_left 255 _)), Nat.min_comm]

/-- What is recorded of a word whose form is `key`. -/
inductive Recorded (d : Dictionary) (key : List UInt8) (skip : Bool) (slot : Nat) (t : Token)
    (m m' : Memory) : Prop
  | listed {i : Nat} (hi : i < d.count.natAbs) (hkey : d.HasKey m i key)
      (hreports : Reports m' slot (d.entry i) t)
  | unlisted (habsent : ∀ i < d.count.natAbs, ¬ d.HasKey m i key) (hskip : skip = false)
      (hreports : Reports m' slot 0 t)
  | skipped (habsent : ∀ i < d.count.natAbs, ¬ d.HasKey m i key) (hskip : skip = true)
      (hsame : Agree m m' slot (slot + 4))

/-- Of these words, those that there is room for were counted, and nothing was written but their
number and their slots. -/
structure Counted (words : List Token) (room : UInt8) (parse : Nat) (m m' : Memory) : Prop where
  count : ∃ n, m'.read8 (parse + 1) = .ok n ∧ n.toNat = min words.length room.toNat
  size : m'.size = m.size
  frame : ∀ k, k ≠ parse + 1 →
    ¬ (parse + 2 ≤ k ∧ k < parse + 2 + 4 * min words.length room.toNat) → m'.bytes[k]? = m.bytes[k]?

/-- A line of text was split into its words, and those that there is room for were recorded. -/
structure Parsed (d : Dictionary) (a : Alphabet) (text : List UInt8) (room : UInt8) (skip : Bool)
    (parse : Nat) (m m' : Memory) : Prop
    extends Counted (Token.split d.separators text) room parse m m' where
  words : ∀ t, t ∈ Token.split d.separators text ↔ Token.IsWord d.separators text t
  order : (Token.split d.separators text).Pairwise fun s t => s.start + s.length ≤ t.start
  cover : ∀ i c, text[i]? = some c → c ≠ 32 → ∃ t ∈ Token.split d.separators text, t.Covers i
  slots : ∀ i t, i < room.toNat → (Token.split d.separators text)[i]? = some t →
    Recorded d (ZString.dictionaryForm a (t.bytes text)) skip (parse + 2 + 4 * i) t m m'

/-! ## The whole line -/

section
variable {h : Header} {buffer parse dictionary : Nat} {skip : Bool} {m m' : Memory}

/-- A parsing that completes found the dictionary, the alphabet, the line and the room, and then
wrote the slots and the number of words. -/
theorem tokenise_eq_ok (hrun : tokenise h buffer parse dictionary skip m = .ok () m') :
    ∃ d a length text room m₁,
      Dictionary.read m (if dictionary = 0 then h.dictionary else dictionary) = .ok d ∧
      Alphabet.ofStory m h = .ok a ∧ m.read8 (buffer + 1) = .ok length ∧
      m.readBytes (buffer + 2) length.toNat = .ok text ∧ m.read8 parse = .ok room ∧
      writeSlots d a text skip (parse + 2) ((Token.split d.separators text).take room.toNat) m
        = .ok () m₁ ∧
      parse + 1 < m₁.size ∧ m' = m₁.setBytes (parse + 1)
        [.ofNat (min (Token.split d.separators text).length room.toNat)] := by
  unfold tokenise at hrun
  rw [get_bind] at hrun
  obtain ⟨d, hd, hrun⟩ := read_bind_eq_ok hrun
  obtain ⟨a, ha, hrun⟩ := lift_bind_eq_ok hrun
  obtain ⟨length, hlength, hrun⟩ := read_bind_eq_ok hrun
  obtain ⟨text, htext, hrun⟩ := read_bind_eq_ok hrun
  obtain ⟨room, hroom, hrun⟩ := read_bind_eq_ok hrun
  obtain ⟨⟨⟩, m₁, hslots, hcount⟩ := bind_eq_ok hrun
  obtain ⟨hlast, rfl⟩ := write8_eq_ok hcount
  rw [List.length_take, Nat.min_comm]
  exact ⟨d, a, length, text, room, m₁, hd, ha, hlength, htext, hroom, hslots, hlast, rfl⟩

/-- Nothing but the slots and the number of words is written, whatever the dictionary. -/
theorem counted_of_writeSlots {d : Dictionary} {a : Alphabet} {text : List UInt8} {words : List Token}
    {room : UInt8} {m₁ : Memory}
    (hslots : writeSlots d a text skip (parse + 2) (words.take room.toNat) m = .ok () m₁)
    (hlast : parse + 1 < m₁.size) :
    Counted words room parse m
      (m₁.setBytes (parse + 1) [.ofNat (min words.length room.toNat)]) where
  count := by
    have hn : min words.length room.toNat < 256 :=
      Nat.lt_of_le_of_lt (Nat.min_le_right _ _) room.toNat_lt
    exact ⟨_, (holds_singleton _ _ _).1 (holds_setBytes hlast), UInt8.toNat_ofNat_of_lt' hn⟩
  size := by rw [size_setBytes, writeSlots_size_eq hslots]
  frame k hk hslot := by
    rw [getElem?_setBytes_outside _ _ _ _ (by simp; omega)]
    have hagree : Agree m m₁ k (k + 1) := by
      refine writeSlots_agree hslots ?_
      rw [List.length_take, Nat.min_comm]
      omega
    exact hagree k (Nat.le_refl k) (Nat.lt_succ_self k)

/-- A word of a line that a byte tells the length of is short enough for a byte. -/
theorem length_lt_of_mem_split {separators text : List UInt8} (htext : text.length < 256) {t : Token}
    (ht : t ∈ Token.split separators text) : t.length < 256 := by
  have := ((Token.mem_split_iff separators text t).1 ht).stop_le
  omega

/-- A slot that was filled with what was found for a word records the word. -/
theorem Filled.recorded {d : Dictionary} {key : List UInt8} {slot entry : Nat} {t : Token}
    (hfilled : Filled skip slot entry t m m') (hfinds : d.Finds m key 0 d.count.natAbs entry)
    (hlow : ∀ i < d.count.natAbs, d.entry i < 65536) (hpos : ∀ i, d.entry i ≠ 0)
    (hlength : t.length < 256) : Recorded d key skip slot t m m' := by
  cases hfinds with
  | @listed i _ hi hkey =>
    have hholds := hfilled.written fun hskip => hpos i hskip.1
    exact .listed hi hkey (reports_of_holds hholds (hlow i hi) hlength)
  | unlisted habsent =>
    have habsent' (i : Nat) (hi : i < d.count.natAbs) : ¬ d.HasKey m i key :=
      habsent i (Nat.zero_le i) hi
    cases hskip : skip with
    | true => exact .skipped habsent' rfl (hfilled.skipped ⟨rfl, hskip⟩)
    | false =>
      have hholds := hfilled.written fun h => by rw [hskip] at h; exact absurd h.2 (by decide)
      exact .unlisted habsent' rfl (reports_of_holds hholds (by decide) hlength)

variable (h buffer parse dictionary skip m m')

/-- **Parsing.**  If the entries lie in the first 64 KiB and apart from the parse buffer, and are
sorted where their count says so, a parsing that completes found the words of the line and recorded
them. -/
theorem tokenise_parsed {d : Dictionary} {room : UInt8}
    (hd : Dictionary.read m (if dictionary = 0 then h.dictionary else dictionary) = .ok d)
    (hroom : m.read8 parse = .ok room) (hsorted : 0 < d.count → d.Sorted m)
    (hentries : ∀ i < d.count.natAbs, d.entry i < 65536 ∧
      (d.entry i + 6 ≤ parse ∨ parse + 2 + 4 * room.toNat ≤ d.entry i))
    (hrun : tokenise h buffer parse dictionary skip m = .ok () m') :
    ∃ a length text, Alphabet.ofStory m h = .ok a ∧ m.read8 (buffer + 1) = .ok length ∧
      m.readBytes (buffer + 2) length.toNat = .ok text ∧ Parsed d a text room skip parse m m' := by
  obtain ⟨d', a, length, text, room', m₁, hd', ha, hlength, htext, hroom', hslots, hlast, rfl⟩ :=
    tokenise_eq_ok hrun
  obtain rfl : d = d' := Except.ok.inj (hd.symm.trans hd')
  obtain rfl : room = room' := Except.ok.inj (hroom.symm.trans hroom')
  have hshort : text.length < 256 := by
    rw [length_of_readBytes htext]
    exact length.toNat_lt
  refine ⟨a, length, text, ha, hlength, htext, counted_of_writeSlots hslots hlast,
    Token.mem_split_iff _ text, Token.pairwise_split _ text,
    fun i c hc hspace => Token.exists_covers_split _ text hc hspace, fun i t hi ht => ?_⟩
  have htake : ((Token.split d.separators text).take room.toNat)[i]? = some t := by
    rw [List.getElem?_take_of_lt hi, ht]
  have hapart (j : Nat) (hj : j < d.count.natAbs) : d.entry j + 6 ≤ parse + 2 ∨
      parse + 2 + 4 * ((Token.split d.separators text).take room.toNat).length ≤ d.entry j := by
    have hlen : ((Token.split d.separators text).take room.toNat).length ≤ room.toNat :=
      List.length_take_le _ _
    have := (hentries j hj).2
    omega
  obtain ⟨entry, hentry, hfilled⟩ := writeSlots_filled (fun _ _ => rfl) hapart hslots htake
  -- the number of words lies before all slots
  have hlater : Agree m₁ (m₁.setBytes (parse + 1)
      [.ofNat (min (Token.split d.separators text).length room.toNat)])
      (parse + 2 + 4 * i) (parse + 2 + 4 * i + 4) :=
    agree_setBytes m₁ _ (.inr (by rw [List.length_singleton]; omega))
  refine (hfilled.agree hlater).recorded (Dictionary.lookup_finds hsorted hentry)
    (fun j hj => (hentries j hj).1) (fun j hj => ?_)
    (length_lt_of_mem_split hshort (List.mem_of_getElem? ht))
  have := Dictionary.four_le_entry hd j
  omega

end

/-! ## A line of two words -/

namespace TwoWords

/-- A dictionary with the one word "go" and a comma as separator, the line "go x", and a parse buffer
with room for two words. -/
def memory : Memory :=
  .ofList ([1, 44, 6, 0, 1] ++ [0x32, 0x85, 0x14, 0xA5, 0x94, 0xA5] ++ [10, 4, 103, 111, 32, 120]
    ++ [2, 0, 9, 9, 9, 9, 9, 9, 9, 9])

def header : Header :=
  { (default : Header) with version := 5, fileLength := 27, staticMemory := 27 }

def dictionary : Dictionary :=
  ⟨[44], 6, 1, 5⟩

end TwoWords

open TwoWords in
/-- The slot of the word that is not listed stays as it was. -/
theorem tokenise_parsed_twoWords :
    Dictionary.read memory 0 = .ok dictionary ∧ memory.read8 17 = .ok 2 ∧
      dictionary.Sorted memory ∧
      tokenise header 11 17 0 true memory = .ok () (memory.setBytes 18 [2, 0, 5, 2, 2]) ∧
      Parsed dictionary .standard [103, 111, 32, 120] 2 true 17 memory
        (memory.setBytes 18 [2, 0, 5, 2, 2]) := by
  have hd : Dictionary.read memory 0 = .ok dictionary := by rfl
  have hroom : memory.read8 17 = .ok 2 := by rfl
  have hsorted : dictionary.Sorted memory := by
    intro i j key key' hij hj
    have hone : j < 1 := hj
    omega
  have hentries (i : Nat) (hi : i < dictionary.count.natAbs) : dictionary.entry i < 65536 ∧
      (dictionary.entry i + 6 ≤ 17 ∨ 17 + 2 + 4 * (2 : UInt8).toNat ≤ dictionary.entry i) := by
    obtain rfl : i = 0 := Nat.lt_one_iff.1 hi
    decide
  have hrun : tokenise header 11 17 0 true memory = .ok () (memory.setBytes 18 [2, 0, 5, 2, 2]) := by
    rfl
  obtain ⟨a, length, text, ha, hlength, htext, hparsed⟩ :=
    tokenise_parsed header 11 17 0 true memory _ hd hroom (fun _ => hsorted) hentries hrun
  obtain rfl : Alphabet.standard = a := Except.ok.inj ha
  obtain rfl : (4 : UInt8) = length := Except.ok.inj hlength
  obtain rfl : [103, 111, 32, 120] = text := Except.ok.inj htext
  exact ⟨hd, hroom, hsorted, hrun, hparsed⟩

end ZMachine
