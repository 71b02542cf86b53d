import ZMachine.Proofs.Engine.Beginning
import ZMachine.Proofs.Text.Parsing

/-!
# Taking in a line

A line is written down in three places, one after another: the key that ended it goes into a
variable, its text in lower case into the text buffer, and its words into the parse buffer.

    buffer + 1                 the number of bytes of the text
    buffer + 2 + i             byte i of the text, which is cut to the length asked for
    parse + 1, parse + 2 ..    the number of words that are recorded, and their slots

Where the places overlap, what is written later stays.  The line is shown as it was typed, and nothing
else is changed.
-/

namespace ZMachine

open Memory

/-! ## The variable -/

/-- Whether a byte of the memory is one of the two that a variable is kept in. -/
def Variable.IsCell (h : Header) (v : Variable) (k : Nat) : Prop :=
  16 ≤ v.number.toNat ∧ (k = Machine.globalAddress h v ∨ k = Machine.globalAddress h v + 1)

namespace Machine

/-- What a machine becomes when a variable receives a value: the value is pushed on the stack, becomes
that of a local of the running routine, or is written into the cell of a global. -/
inductive Receives (s : Machine) (v : Variable) (w : UInt16) : Machine → Prop
  | pushed (hv : v.number = 0) :
      Receives s v w { s with stack := { s.stack with values := s.stack.values.push w } }
  | inFrame {f : Frame} {callers : List Frame} (hv : v.number ≠ 0) (hv' : v.number < 16)
      (hframes : s.stack.frames = f :: callers)
      (hlocal : (v.number - 1).toNat < f.locals.length) :
      Receives s v w { s with
        stack := { s.stack with
          frames := { f with locals := f.locals.set (v.number - 1).toNat w } :: callers } }
  | inGlobal (hv : 16 ≤ v.number.toNat) (hroom : globalAddress s.header v + 1 < s.memory.size) :
      Receives s v w { s with memory := s.memory.setBytes (globalAddress s.header v) (wordBytes w) }

theorem writeVar_receives {s s' : Machine} {v : Variable} {w : UInt16}
    (h : writeVar v w s = .ok () s') : s.Receives v w s' := by
  unfold writeVar at h
  by_cases hpush : v.number = 0
  · rw [if_pos hpush] at h
    obtain ⟨u, hu, rfl⟩ := onStack_eq_ok h
    unfold Stack.push at hu
    split at hu
    · cases hu
      exact .pushed hpush
    · cases hu
  rw [if_neg hpush] at h
  by_cases hlocal : v.number < 16
  · rw [if_pos hlocal] at h
    obtain ⟨u, hu, rfl⟩ := onStack_eq_ok h
    unfold Stack.setLocal at hu
    cases hframes : s.stack.frames with
    | nil =>
      rw [hframes] at hu
      cases hu
    | cons f callers =>
      rw [hframes] at hu
      dsimp only at hu
      split at hu
      · next hin =>
        cases hu
        exact .inFrame hpush hlocal hframes hin
      · cases hu
  · rw [if_neg hlocal, get_bind] at h
    obtain ⟨m, hm, rfl⟩ := onMemory_eq_ok h
    obtain ⟨hroom, rfl⟩ := write16_eq_ok hm
    exact .inGlobal (Nat.le_of_not_lt fun hlt => hlocal (UInt8.lt_iff_toNat_lt.2 hlt)) hroom

section
variable {s s' : Machine} {v : Variable} {w : UInt16}

theorem Receives.header_eq (h : s.Receives v w s') : s'.header = s.header := by
  cases h <;> rfl

/-- Only the cell of the variable is written. -/
theorem Receives.frame (h : s.Receives v w s') {k : Nat} (hk : ¬ v.IsCell s.header k) :
    s'.memory.bytes[k]? = s.memory.bytes[k]? := by
  cases h with
  | pushed | inFrame => rfl
  | inGlobal hv =>
    have hout : k ≠ globalAddress s.header v ∧ k ≠ globalAddress s.header v + 1 :=
      ⟨fun e => hk ⟨hv, .inl e⟩, fun e => hk ⟨hv, .inr e⟩⟩
    exact getElem?_setBytes_outside _ _ _ _ (by rw [length_wordBytes]; omega)

end

end Machine

/-! ## The text and its words -/

namespace LineInput

/-- The bytes that a line is written down as. -/
def zscii (lower : String → String) (extra : ExtraChars) (i : LineInput) : List UInt8 :=
  (extra.encode (lower i.response)).take i.length.toNat

/-- A line has a byte for each character of its lower case, as far as the length asked for. -/
theorem length_zscii (lower : String → String) (extra : ExtraChars) (i : LineInput) :
    (i.zscii lower extra).length = min (lower i.response).length i.length.toNat := by
  unfold zscii ExtraChars.encode
  rw [List.length_take, List.length_map, String.length_toList, Nat.min_comm]

/-- The memory with a text in the text buffer. -/
def enter (i : LineInput) (z : List UInt8) (m : Memory) : Memory :=
  m.setBytes (i.buffer.toNat + 1) (.ofNat z.length :: z)

/-- Whether a byte is written when `count` words are recorded in the parse buffer. -/
def Parses (i : LineInput) (count k : Nat) : Prop :=
  i.parse ≠ 0 ∧ i.parse.toNat + 1 ≤ k ∧ k < i.parse.toNat + 2 + 4 * count

/-- A text was written down in the text buffer, and if there is a parse buffer, `count` of its words
in that one. -/
structure Written (h : Header) (i : LineInput) (z : List UInt8) (count : Nat) (m m' : Memory) :
    Prop where
  length : ¬ i.Parses count (i.buffer.toNat + 1) →
    ∃ n, m'.read8 (i.buffer.toNat + 1) = .ok n ∧ n.toNat = z.length
  text : ∀ j < z.length, ¬ i.Parses count (i.buffer.toNat + 2 + j) →
    m'.bytes[i.buffer.toNat + 2 + j]? = z[j]?
  words : i.parse ≠ 0 → ∃ d room, Dictionary.read (i.enter z m) h.dictionary = .ok d ∧
    (i.enter z m).read8 i.parse.toNat = .ok room ∧
    tokenise h i.buffer.toNat i.parse.toNat 0 false (i.enter z m) = .ok () m' ∧
    Counted (Token.split d.separators z) room i.parse.toNat (i.enter z m) m' ∧
    count = min (Token.split d.separators z).length room.toNat
  frame : ∀ k, ¬ (i.buffer.toNat + 1 ≤ k ∧ k < i.buffer.toNat + 2 + z.length) →
    ¬ i.Parses count k → m'.bytes[k]? = m.bytes[k]?

section
variable {h : Header} {i : LineInput} {z : List UInt8} {m m' : Memory}

theorem size_enter (i : LineInput) (z : List UInt8) (m : Memory) : (i.enter z m).size = m.size :=
  size_setBytes _ _ _

theorem holds_enter (hroom : i.buffer.toNat + 2 + z.length ≤ m.size) :
    (i.enter z m).Holds (i.buffer.toNat + 1) (.ofNat z.length :: z) :=
  holds_setBytes (by rw [List.length_cons]; omega)

theorem enter_frame {k : Nat} (hk : ¬ (i.buffer.toNat + 1 ≤ k ∧ k < i.buffer.toNat + 2 + z.length)) :
    (i.enter z m).bytes[k]? = m.bytes[k]? :=
  getElem?_setBytes_outside _ _ _ _ (by rw [List.length_cons]; omega)

/-- Where the later bytes are those of the text buffer but for the recorded words, the text is
there. -/
theorem written_of_agree {count : Nat} (hz : z.length < 256)
    (hroom : i.buffer.toNat + 2 + z.length ≤ m.size)
    (hlater : ∀ k, ¬ i.Parses count k → m'.bytes[k]? = (i.enter z m).bytes[k]?)
    (hwords : i.parse ≠ 0 → ∃ d room, Dictionary.read (i.enter z m) h.dictionary = .ok d ∧
      (i.enter z m).read8 i.parse.toNat = .ok room ∧
      tokenise h i.buffer.toNat i.parse.toNat 0 false (i.enter z m) = .ok () m' ∧
      Counted (Token.split d.separators z) room i.parse.toNat (i.enter z m) m' ∧
      count = min (Token.split d.separators z).length room.toNat) :
    Written h i z count m m' where
  length hout := by
    obtain ⟨hlength, -⟩ := (holds_cons _ _ _ _).1 (holds_enter hroom)
    rw [read8_eq_ok_iff, ← hlater _ hout, ← read8_eq_ok_iff] at hlength
    exact ⟨_, hlength, UInt8.toNat_ofNat_of_lt' hz⟩
  text j hj hout := by
    obtain ⟨-, htext⟩ := (holds_cons _ _ _ _).1 (holds_enter hroom)
    rw [hlater _ hout]
    exact htext j hj
  words := hwords
  frame k hk hout := by rw [hlater k hout, enter_frame hk]

/-- Without a parse buffer only the text is written. -/
theorem written_of_no_parse (hz : z.length < 256) (hroom : i.buffer.toNat + 2 + z.length ≤ m.size)
    (hparse : i.parse = 0) : Written h i z 0 m (i.enter z m) :=
  written_of_agree hz hroom (fun _ _ => rfl) (fun hne => absurd hparse hne)

/-- What is split into words is the text that was just written. -/
theorem written_of_tokenise (hz : z.length < 256)
    (hroom : i.buffer.toNat + 2 + z.length ≤ m.size) (hparse : i.parse ≠ 0)
    (hrun : tokenise h i.buffer.toNat i.parse.toNat 0 false (i.enter z m) = .ok () m') :
    ∃ count, Written h i z count m m' := by
  obtain ⟨d, a, length, text, room, m₁, hd, -, hlength, htext, hcapacity, hslots, hlast, hm'⟩ :=
    tokenise_eq_ok hrun
  obtain ⟨hfirst, hrest⟩ := (holds_cons _ _ _ _).1 (holds_enter hroom)
  obtain rfl : UInt8.ofNat z.length = length := Except.ok.inj (hfirst.symm.trans hlength)
  obtain rfl : z = text := by
    rw [UInt8.toNat_ofNat_of_lt' hz] at htext
    have hread := hrest.readBytes_eq (by rw [size_enter]; omega)
    exact Except.ok.inj (hread.symm.trans htext)
  have hcounted : Counted (Token.split d.separators z) room i.parse.toNat (i.enter z m) m' :=
    hm' ▸ counted_of_writeSlots hslots hlast
  rw [if_pos rfl] at hd
  refine ⟨min (Token.split d.separators z).length room.toNat, written_of_agree hz hroom ?_
    fun _ => ⟨d, room, hd, hcapacity, hrun, hcounted, rfl⟩⟩
  exact fun k hk => hcounted.frame k (fun e => hk ⟨hparse, by omega, by omega⟩)
    (fun hin => hk ⟨hparse, by omega, hin.2⟩)

end

end LineInput

/-! ## The event -/

namespace Engine

section
variable {lower : String → String} {i : LineInput} {e e' : Engine} {s : Machine}

/-- The text goes into the text buffer, and then its words into the parse buffer if there is one. -/
theorem enterText_eq_ok {z : List UInt8} (hs : e.machine = some s)
    (h : (do
      onMachine (Machine.onMemory (write8 (i.buffer.toNat + 1) (.ofNat z.length)))
      onMachine (Machine.onMemory (writeBytes (i.buffer.toNat + 2) z))
      if i.parse ≠ 0 then
        onMachine do
          let h := (← get).header
          Machine.onMemory (tokenise h i.buffer.toNat i.parse.toNat 0 false)
        note .lineSplit : EngineM Unit) e = .ok () e') :
    i.buffer.toNat + 2 + z.length ≤ s.memory.size ∧
    ∃ m', (i.parse = 0 ∧ m' = i.enter z s.memory ∨ i.parse ≠ 0 ∧
        tokenise s.header i.buffer.toNat i.parse.toNat 0 false (i.enter z s.memory) = .ok () m') ∧
      e' = { e with machine := some { s with memory := m' }, journal := e'.journal } := by
  obtain ⟨⟨⟩, s₁, hlength, htail⟩ := onMachine_bind_eq_ok hs h
  obtain ⟨m₁, hm₁, rfl⟩ := Machine.onMemory_eq_ok hlength
  obtain ⟨-, rfl⟩ := write8_eq_ok hm₁
  obtain ⟨⟨⟩, s₂, htext, hwords⟩ := onMachine_bind_eq_ok rfl htail
  obtain ⟨m₂, hm₂, rfl⟩ := Machine.onMemory_eq_ok htext
  obtain ⟨hroom, rfl⟩ := writeBytes_eq_ok hm₂
  rw [size_setBytes] at hroom
  refine ⟨hroom, ?_⟩
  by_cases hparse : i.parse = 0
  · rw [if_neg (not_not_intro hparse)] at hwords
    cases hwords
    exact ⟨_, .inl ⟨hparse, rfl⟩, rfl⟩
  · rw [if_pos hparse] at hwords
    obtain ⟨⟨⟩, s₃, hsplit, hnote⟩ := onMachine_bind_eq_ok rfl hwords
    rw [get_bind] at hsplit
    obtain ⟨m₃, hm₃, rfl⟩ := Machine.onMemory_eq_ok hsplit
    cases hnote
    exact ⟨m₃, .inr ⟨hparse, hm₃⟩, rfl⟩

/-- The steps of taking in a line: the key is stored, the line is shown, and the text goes into the
memory that the key left. -/
theorem lineInput_eq_ok (hs : e.machine = some s) (h : lineInput lower i e = .ok () e') :
    ∃ s₁ extra m', Machine.writeVar i.storer i.terminator.toUInt16 s = .ok () s₁ ∧
      ExtraChars.ofStory s₁.memory s₁.header = .ok extra ∧
      i.buffer.toNat + 2 + (i.zscii lower extra).length ≤ s₁.memory.size ∧
      (i.parse = 0 ∧ m' = i.enter (i.zscii lower extra) s₁.memory ∨ i.parse ≠ 0 ∧
        tokenise s₁.header i.buffer.toNat i.parse.toNat 0 false
          (i.enter (i.zscii lower extra) s₁.memory) = .ok () m') ∧
      e' = { e with
        machine := some { s₁ with memory := m' }
        window := (e.window.print i.response).print "\n"
        journal := e'.journal } := by
  unfold lineInput at h
  obtain ⟨⟨⟩, e₁, hcheck, h⟩ := bind_eq_ok h
  obtain ⟨s', hs', hrunning⟩ := checkRunning_eq_ok hcheck
  rw [checkRunning_of_running hs' hrunning] at hcheck
  cases hcheck
  obtain ⟨⟨⟩, s₁, hkey, hshow⟩ := onMachine_bind_eq_ok hs h
  obtain ⟨extra, s₂, hask, htext⟩ := onMachine_bind_eq_ok
    (e := { e with machine := some s₁, window := (e.window.print i.response).print "\n" }) rfl hshow
  obtain ⟨hextra, rfl⟩ := Machine.ask_eq_ok hask
  -- a line that is cut leaves a record in the journal, and nothing else is different
  dsimp only at htext
  split at htext
  · obtain ⟨hroom, m', hm', he'⟩ := enterText_eq_ok rfl htext
    exact ⟨_, extra, m', hkey, hextra, hroom, hm', he'⟩
  · obtain ⟨hroom, m', hm', he'⟩ := enterText_eq_ok rfl htext
    exact ⟨_, extra, m', hkey, hextra, hroom, hm', he'⟩

end

/-- **Taking in a line.**  When an input of a line completes, whatever `lower` takes for lower case,
the variable had received the key before the text was written down, the text and its words are where
they belong, the line was shown, and nothing else is different. -/
theorem line_written (lower : String → String) (i : LineInput) (env : Option Patch) (e e' : Engine)
    (s : Machine) (hs : e.machine = some s)
    (h : lineInput lower i (ready ⟨.read i, env⟩ e) = .ok () e') :
    (lower = Case.lowerCase → begin ⟨.read i, env⟩ e = .ok true e') ∧
    ∃ s₁ extra m' count,
      s.Receives i.storer i.terminator.toUInt16 s₁ ∧
      ExtraChars.ofStory s₁.memory s.header = .ok extra ∧
      (i.zscii lower extra).length = min (lower i.response).length i.length.toNat ∧
      i.Written s.header (i.zscii lower extra) count s₁.memory m' ∧
      (∀ k, ¬ i.storer.IsCell s.header k →
        ¬ (i.buffer.toNat + 1 ≤ k ∧ k < i.buffer.toNat + 2 + (i.zscii lower extra).length) →
        ¬ i.Parses count k → m'.bytes[k]? = s.memory.bytes[k]?) ∧
      e' = { ready ⟨.read i, env⟩ e with
        machine := some { s₁ with memory := m' }
        window := ((ready ⟨.read i, env⟩ e).window.print i.response).print "\n"
        journal := e'.journal } := by
  have hready : (ready ⟨.read i, env⟩ e).machine = some s := (ready_kept _ e).1.trans hs
  obtain ⟨s₁, extra, m', hkey, hextra, hroom, hm', he'⟩ := lineInput_eq_ok hready h
  have hreceives := Machine.writeVar_receives hkey
  have hlength := i.length_zscii lower extra
  have hshort : (i.zscii lower extra).length < 256 := by
    rw [hlength]
    exact Nat.lt_of_le_of_lt (Nat.min_le_right _ _) i.length.toNat_lt
  rw [hreceives.header_eq] at hextra hm'
  obtain ⟨count, hwritten⟩ :
      ∃ count, i.Written s.header (i.zscii lower extra) count s₁.memory m' := by
    rcases hm' with ⟨hparse, rfl⟩ | ⟨hparse, hrun⟩
    · exact ⟨0, LineInput.written_of_no_parse hshort hroom hparse⟩
    · exact LineInput.written_of_tokenise hshort hroom hparse hrun
  refine ⟨?_, s₁, extra, m', count, hreceives, hextra, hlength, hwritten, ?_, he'⟩
  · rintro rfl
    rw [begin_run]
    exact bind_ok h
  · intro k hcell htext hwords
    rw [hwritten.frame k htext hwords, hreceives.frame hcell]

namespace TypedGo

/-- The line "Go" for the text buffer at 11 and the parse buffer at 17; the key goes on the stack. -/
def line : LineInput where
  response := "Go"
  terminator := 13
  buffer := 11
  parse := 17
  length := 10
  storer := .stack

def engine : Engine where
  undo := .ofDepth 1
  machine := some
    { memory := TwoWords.memory, header := TwoWords.header, pc := 0, story := TwoWords.memory }

end TypedGo

open TypedGo in
/-- The key is pushed, the text is "go", and its one word is the entry of the dictionary. -/
theorem line_written_typedGo :
    ∃ e', lineInput Case.lowerCase line (ready ⟨.read line, none⟩ engine) = .ok () e' ∧
      begin ⟨.read line, none⟩ engine = .ok true e' ∧
      e'.machine = some
        { memory := (TwoWords.memory.setBytes 12 [2, 103, 111]).setBytes 18 [1, 0, 5, 2, 2]
          header := TwoWords.header
          pc := 0
          stack := ⟨#[13], []⟩
          story := TwoWords.memory } := by
  have hrun : lineInput Case.lowerCase line (ready ⟨.read line, none⟩ engine) =
      .ok () (endState (lineInput Case.lowerCase line (ready ⟨.read line, none⟩ engine))) := by
    rfl
  obtain ⟨hbegin, -⟩ := line_written Case.lowerCase line none engine _ _ rfl hrun
  exact ⟨_, hrun, hbegin rfl, by decide +kernel⟩

end Engine
end ZMachine
