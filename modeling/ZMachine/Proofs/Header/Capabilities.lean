import ZMachine.Proofs.Header

/-!
# Writing into the header again

What the machine can do is written into the header after every restart and every restore, so it is
often written over what was written before.  Doing it twice is doing it once:

    writeCapabilities h c m = .ok () m'   →   writeCapabilities h c m' = .ok () m'

All that is written is constant but the low byte of flags 2, of which bits are taken away; this is the
whole reason, and it does not matter where the story has put its extension table.  It does matter for
the header itself: a table that does not lie in the header leaves all bytes alone that the header is
read from,

    parse m = .ok h   →   parse m' = .ok h        when h.extension = 0 or 0x40 ≤ h.extension

so the header that was read once serves after any number of such writings.
-/

namespace ZMachine

/-! ## Memories that differ at few addresses -/

namespace Memory

/-- The same bytes in two memories of one size, except at these addresses. -/
def AgreeBut (addresses : List Nat) (m m' : Memory) : Prop :=
  m'.size = m.size ∧ ∀ k ∉ addresses, m'.byteAt k = m.byteAt k

theorem AgreeBut.eq {m m' : Memory} (h : AgreeBut [] m m') : m' = m :=
  eq_of_bytes (fun k => h.2 k List.not_mem_nil)

/-- A byte that is written to both is one that they agree on. -/
theorem AgreeBut.set8 {a : Nat} {rest : List Nat} {m m' : Memory} (h : AgreeBut (a :: rest) m m')
    (v : UInt8) : AgreeBut rest (m.set8 a v) (m'.set8 a v) := by
  refine ⟨by rw [size_set8, size_set8, h.1], fun k hk => ?_⟩
  by_cases hka : a = k
  · subst hka
    unfold byteAt
    rw [getElem?_set8, getElem?_set8, h.1]
    by_cases ha : a < m.size
    · rw [if_pos ⟨rfl, ha⟩, if_pos ⟨rfl, ha⟩]
    · have hnone (m : Memory) (ha : ¬ a < m.size) : m.bytes[a]? = none :=
        Array.getElem?_eq_none (Nat.le_of_not_lt ha)
      rw [if_neg (fun hin => ha hin.2), if_neg (fun hin => ha hin.2), hnone m ha,
        hnone m' (h.1 ▸ ha)]
  · have hrest : k ∉ a :: rest := by
      rw [List.mem_cons, not_or]
      exact ⟨fun hk => hka hk.symm, hk⟩
    rw [byteAt_set8_of_ne m hka, byteAt_set8_of_ne m' hka, h.2 k hrest]

variable {α β : Type}

/-- Where an action completes from two memories that agree but at `before`, it has one answer and
leaves them in agreement but at `after`. -/
def Mends (before after : List Nat) (x : MemoryM α) : Prop :=
  ∀ ⦃m₁ m₂ m₁' m₂' : Memory⦄ ⦃a₁ a₂ : α⦄, AgreeBut before m₁ m₂ → x m₁ = .ok a₁ m₁' →
    x m₂ = .ok a₂ m₂' → a₁ = a₂ ∧ AgreeBut after m₁' m₂'

theorem mends_pure (addresses : List Nat) (a : α) : Mends addresses addresses (pure a) := by
  intro m₁ m₂ m₁' m₂' a₁ a₂ hagree h₁ h₂
  cases h₁
  cases h₂
  exact ⟨rfl, hagree⟩

theorem mends_bind {s t u : List Nat} {x : MemoryM α} {g : α → MemoryM β} (hx : Mends s t x)
    (hg : ∀ a, Mends t u (g a)) : Mends s u (x >>= g) := by
  intro m₁ m₂ m₁' m₂' b₁ b₂ hagree h₁ h₂
  obtain ⟨a₁, n₁, hx₁, hg₁⟩ := bind_eq_ok h₁
  obtain ⟨a₂, n₂, hx₂, hg₂⟩ := bind_eq_ok h₂
  obtain ⟨rfl, hagree⟩ := hx hagree hx₁ hx₂
  exact hg a₁ hagree hg₁ hg₂

theorem mends_write8 (a : Nat) (v : UInt8) (rest : List Nat) :
    Mends (a :: rest) rest (write8 a v) := by
  intro m₁ m₂ m₁' m₂' _ _ hagree h₁ h₂
  obtain ⟨-, rfl⟩ := write8_eq_ok h₁
  obtain ⟨-, rfl⟩ := write8_eq_ok h₂
  exact ⟨rfl, hagree.set8 v⟩

theorem mends_write16 (a : Nat) (v : UInt16) (rest : List Nat) :
    Mends (a :: (a + 1) :: rest) rest (write16 a v) := by
  intro m₁ m₂ m₁' m₂' _ _ hagree h₁ h₂
  obtain ⟨-, rfl⟩ := write16_eq_ok h₁
  obtain ⟨-, rfl⟩ := write16_eq_ok h₂
  exact ⟨rfl, (hagree.set8 (highByte v)).set8 (lowByte v)⟩

end Memory

namespace Header

/-! ## Writing twice -/

/-- The addresses of the third set of flags. -/
def flagsAddresses (h : Header) : List Nat :=
  if h.hasExtensionWord Layout.flags3Word then
    [h.extensionAddress Layout.flags3Word, h.extensionAddress Layout.flags3Word + 1]
  else []

theorem mem_flagsAddresses {h : Header} {k : Nat} : k ∈ h.flagsAddresses ↔ h.FlagsCover k := by
  unfold flagsAddresses FlagsCover
  by_cases hhas : h.hasExtensionWord Layout.flags3Word = true
  · rw [if_pos hhas]
    simp [hhas]
  · rw [if_neg hhas]
    simp [hhas]

theorem setExtensionWord_mends (h : Header) (v : UInt16) :
    Memory.Mends h.flagsAddresses [] (h.setExtensionWord Layout.flags3Word v) := by
  unfold setExtensionWord flagsAddresses
  by_cases hhas : h.hasExtensionWord Layout.flags3Word = true
  · rw [if_pos hhas, if_pos hhas]
    exact Memory.mends_bind (Memory.mends_write16 _ v []) (fun _ => Memory.mends_pure [] true)
  · rw [if_neg hhas, if_neg hhas]
    exact Memory.mends_pure [] false

/-- All that is written behind the first two sets of flags is constant. -/
theorem writeScreen_mends (h : Header) (c : Config) :
    Memory.Mends (capabilityAddresses.drop 2 ++ h.flagsAddresses) [] (h.writeScreen c) := by
  unfold writeScreen
  refine Memory.mends_bind (Memory.mends_write8 _ _ _) (fun _ => ?_)
  refine Memory.mends_bind (Memory.mends_write8 _ _ _) (fun _ => ?_)
  refine Memory.mends_bind (Memory.mends_write16 _ _ _) (fun _ => ?_)
  refine Memory.mends_bind (Memory.mends_write16 _ _ _) (fun _ => ?_)
  refine Memory.mends_bind (Memory.mends_write16 _ _ _) (fun _ => ?_)
  refine Memory.mends_bind (Memory.mends_write8 _ _ _) (fun _ => ?_)
  refine Memory.mends_bind (Memory.mends_write8 _ _ _) (fun _ => ?_)
  exact Memory.mends_bind (setExtensionWord_mends h 0) (fun _ => Memory.mends_pure [] ())

theorem keptFlags_keptFlags (b : UInt8) : keptFlags (keptFlags b) = keptFlags b := by
  unfold keptFlags
  rw [UInt8.and_assoc, UInt8.and_self]

variable {h : Header} {c : Config} {m m' : Memory}

theorem flagsFit_of_written (hm : Layout.size ≤ m.size)
    (hwritten : h.writeCapabilities c m = .ok () m') : h.FlagsFit m.size := by
  by_contra hfit
  obtain ⟨after, herror⟩ := writeCapabilities_eq_error hm hfit c
  rw [herror] at hwritten
  cases hwritten

theorem size_of_written (hwritten : h.writeCapabilities c m = .ok () m') : m'.size = m.size :=
  (writeCapabilities_keeps_size h c).of_ok hwritten

/-- What the machine can do is written over itself. -/
theorem writeCapabilities_again (hm : Layout.size ≤ m.size)
    (hwritten : h.writeCapabilities c m = .ok () m') : h.writeCapabilities c m' = .ok () m' := by
  have hsize := size_of_written hwritten
  have hm' : Layout.size ≤ m'.size := hsize ▸ hm
  have hfirst : Layout.flags1 < m.size := Nat.lt_of_lt_of_le (by decide) hm
  have hsecond : Layout.flags2 < m.size := Nat.lt_of_lt_of_le (by decide) hm
  obtain ⟨m'', hagain⟩ := writeCapabilities_eq_ok hm' (hsize ▸ flagsFit_of_written hm hwritten) c
  obtain ⟨b, hb⟩ := m.read8_of_lt Layout.flags2 hsecond
  obtain ⟨b', hb'⟩ := m'.read8_of_lt Layout.flags2 (hsize ▸ hsecond)
  rw [Memory.read8_eq_ok_iff] at hb hb'
  have hrun := writeCapabilities_of_flags h c hm hb
  have hrun' := writeCapabilities_of_flags h c hm' hb'
  rw [hrun] at hwritten
  rw [hrun'] at hagain
  -- Both times the rest is written over memories that differ only where it is written.
  have hagree : Memory.AgreeBut (capabilityAddresses.drop 2 ++ h.flagsAddresses)
      ((m.set8 Layout.flags1 (capabilityFlags c)).set8 Layout.flags2 (keptFlags b))
      ((m'.set8 Layout.flags1 (capabilityFlags c)).set8 Layout.flags2 (keptFlags b')) := by
    refine ⟨by simp only [Memory.size_set8, hsize], fun k hk => ?_⟩
    rw [List.mem_append, not_or, mem_flagsAddresses] at hk
    have hkept := (writeScreen_keeps_byte hk.1 hk.2 c).of_ok hwritten
    by_cases hk2 : Layout.flags2 = k
    · subst hk2
      have hleft : m'.byteAt Layout.flags2 = some (keptFlags b) :=
        hkept.trans (Memory.byteAt_set8_self (by rwa [Memory.size_set8]) _)
      obtain rfl : b' = keptFlags b := Option.some.inj (hb'.symm.trans hleft)
      rw [Memory.byteAt_set8_self (by rwa [Memory.size_set8, hsize]),
        Memory.byteAt_set8_self (by rwa [Memory.size_set8]), keptFlags_keptFlags]
    · rw [Memory.byteAt_set8_of_ne _ hk2] at hkept ⊢
      by_cases hk1 : Layout.flags1 = k
      · subst hk1
        rw [Memory.byteAt_set8_self (hsize ▸ hfirst), Memory.byteAt_set8_of_ne _ hk2,
          Memory.byteAt_set8_self hfirst]
      · rw [Memory.byteAt_set8_of_ne _ hk1, hkept, Memory.byteAt_set8_of_ne _ hk2]
  obtain ⟨-, hsame⟩ := writeScreen_mends h c hagree hwritten hagain
  rw [hrun', hagain, hsame.eq]

/-! ## The header afterwards -/

theorem readAddress_extension_of_parse (hparse : parse m = .ok h) :
    readAddress m Layout.extension = pure h.extension := by
  have hsize : ¬ m.size < Layout.size := Nat.not_lt.2 (size_of_parse hparse)
  unfold parse at hparse
  obtain ⟨version, -, hparse⟩ := except_bind_eq_ok hparse
  dsimp only at hparse
  by_cases hversion : version ≠ 5 ∧ version ≠ 8
  · rw [if_pos hversion] at hparse
    cases hparse
  · rw [if_neg hversion, if_neg hsize] at hparse
    obtain ⟨extension, hextension, hparse⟩ := except_bind_eq_ok hparse
    have hsame : h.extension = extension := by
      split at hparse
      all_goals
        iterate 13 obtain ⟨_, -, hparse⟩ := except_bind_eq_ok hparse
        cases hparse
        rfl
    rw [hextension, hsame]
    rfl

/-- A header is read from its bytes that are no capabilities and from the length of the extension
table. -/
theorem parse_congr (hparse : parse m = .ok h) (hsize : m'.size = m.size)
    (hbyte : ∀ k < Layout.size, k ∉ capabilityAddresses → m'.byteAt k = m.byteAt k)
    (hcount : h.extension ≠ 0 → Memory.Agree m m' h.extension (h.extension + 2)) :
    parse m' = .ok h := by
  have hread8 (a : Nat) (ha : a < Layout.size ∧ a ∉ capabilityAddresses) :
      m'.read8 a = m.read8 a :=
    Memory.read8_congr hsize (hbyte a ha.1 ha.2)
  have hread16 (a : Nat) (ha : a + 1 < Layout.size ∧ a ∉ capabilityAddresses ∧
      a + 1 ∉ capabilityAddresses) : m'.read16 a = m.read16 a := by
    refine Memory.Agree.read16_eq (fun k hk hk' => ?_) hsize
    obtain rfl | rfl : k = a ∨ k = a + 1 := by omega
    · exact hbyte k (by omega) ha.2.1
    · exact hbyte (a + 1) ha.1 ha.2.2
  have haddress (a : Nat) (ha : a + 1 < Layout.size ∧ a ∉ capabilityAddresses ∧
      a + 1 ∉ capabilityAddresses) : readAddress m' a = readAddress m a := by
    unfold readAddress
    rw [hread16 a ha]
  have hserial : readSerial m' = readSerial m := by
    unfold readSerial
    congr 1
    funext i
    have hi : ∀ i : Fin 6, Layout.serial + i.val < Layout.size ∧
        Layout.serial + i.val ∉ capabilityAddresses := by decide
    exact congrArg (·.getD 0) (hbyte _ (hi i).1 (hi i).2)
  have hextension := readAddress_extension_of_parse hparse
  rw [← hparse]
  unfold parse
  simp (disch := decide) only [hread8, hread16, haddress, hserial, hsize, hextension, pure_bind]
  by_cases hzero : h.extension = 0
  · simp only [hzero, if_true]
  · have hlength : readAddress m' h.extension = readAddress m h.extension := by
      unfold readAddress
      rw [(hcount hzero).read16_eq hsize]
    simp only [hlength]

theorem flagsCover_iff {k : Nat} : h.FlagsCover k ↔ h.extension ≠ 0 ∧ 4 ≤ h.extensionCount ∧
    (k = h.extension + 8 ∨ k = h.extension + 9) := by
  unfold FlagsCover hasExtensionWord
  rw [Bool.and_eq_true, bne_iff_ne, decide_eq_true_iff, and_assoc]
  rfl

/-- An extension table that does not lie in the header leaves the header as it was read. -/
theorem parse_of_written (hparse : parse m = .ok h)
    (hapart : h.extension = 0 ∨ Layout.size ≤ h.extension)
    (hwritten : h.writeCapabilities c m = .ok () m') : parse m' = .ok h := by
  have hkept {k : Nat} (hk : k ∉ capabilityAddresses) (hcover : ¬ h.FlagsCover k) :
      m'.byteAt k = m.byteAt k :=
    (writeCapabilities_keeps_byte (fun hcap => hcap.elim hk hcover) c).of_ok hwritten
  refine parse_congr hparse (size_of_written hwritten) (fun k hlt hk => ?_) (fun hzero k hk hk' => ?_)
  · refine hkept hk (fun hcover => ?_)
    rw [flagsCover_iff] at hcover
    omega
  · have hbelow : ∀ a ∈ capabilityAddresses, a < Layout.size := by decide
    refine hkept (fun hmem => ?_) (fun hcover => ?_)
    · have := hbelow k hmem
      omega
    · rw [flagsCover_iff] at hcover
      omega

end Header

/-! ## The machine -/

namespace Machine

/-- The header of a machine is the one in its memory, and stays so when it is brought up to date. -/
structure Readable (s : Machine) : Prop where
  parses : Header.parse s.memory = .ok s.header
  fits : s.header.FlagsFit s.memory.size
  apart : s.header.extension = 0 ∨ Layout.size ≤ s.header.extension

theorem Readable.syncHeader {s : Machine} (hs : s.Readable) (c : Config) :
    ∃ s', Machine.syncHeader c s = .ok () s' ∧ s'.header = s.header ∧ s'.Readable := by
  have hlarge := Header.size_of_parse hs.parses
  obtain ⟨memory, hmemory⟩ := Header.writeCapabilities_eq_ok hlarge hs.fits c
  refine ⟨{ s with random := {}, memory }, ?_, rfl, ?_, ?_, hs.apart⟩
  · show onMemory (s.header.writeCapabilities c) { s with random := {} } = _
    rw [onMemory_run, hmemory]
  · exact Header.parse_of_written hs.parses hs.apart hmemory
  · show s.header.FlagsFit memory.size
    rw [Header.size_of_written hmemory]
    exact hs.fits

/-- However often the header is brought up to date, and whatever the settings are each time. -/
theorem Readable.syncHeaders {s : Machine} (hs : s.Readable) (cs : List Config) :
    ∃ s', cs.forM Machine.syncHeader s = .ok () s' ∧ s'.header = s.header ∧ s'.Readable := by
  induction cs generalizing s with
  | nil => exact ⟨s, rfl, rfl, hs⟩
  | cons c rest ih =>
    obtain ⟨s₁, hfirst, hheader₁, hs₁⟩ := hs.syncHeader c
    obtain ⟨s', hrest, hheader, hs'⟩ := ih hs₁
    exact ⟨s', (bind_ok hfirst).trans hrest, hheader.trans hheader₁, hs'⟩

end Machine

/-- Writing what the machine can do into the header that was read changes nothing the second time.  It
changes few bytes, of the low byte of flags 2 just the bits 3, 5 and 7 if the third set of flags does
not lie there.  If the extension table does not lie in the header either, the header is read as before,
after this and after all later times that a machine brings it up to date. -/
theorem Header.writeCapabilities_keeps_layout {h : Header} {c : Config} {m m' : Memory}
    (hparse : parse m = .ok h) (hwritten : h.writeCapabilities c m = .ok () m') :
    h.writeCapabilities c m' = .ok () m' ∧
    m'.size = m.size ∧
    (∀ k, m'.byteAt k ≠ m.byteAt k → k ∈ capabilityAddresses ∨
      h.extension ≠ 0 ∧ 4 ≤ h.extensionCount ∧ (k = h.extension + 8 ∨ k = h.extension + 9)) ∧
    (¬ (h.extension ≠ 0 ∧ 4 ≤ h.extensionCount ∧
        (0x11 = h.extension + 8 ∨ 0x11 = h.extension + 9)) →
      ∃ b, m.byteAt 0x11 = some b ∧
        m'.byteAt 0x11 = some (b &&& ~~~(0x08 ||| 0x20 ||| 0x80))) ∧
    (h.extension = 0 ∨ 0x40 ≤ h.extension →
      parse m' = .ok h ∧
      ∀ s : Machine, s.memory = m → s.header = h → ∀ cs : List Config,
        ∃ s', cs.forM Machine.syncHeader s = .ok () s' ∧ s'.header = h ∧
          parse s'.memory = .ok h) := by
  have hlarge := size_of_parse hparse
  refine ⟨writeCapabilities_again hlarge hwritten, size_of_written hwritten, fun k hk => ?_,
    fun hcover => ?_, fun hapart => ⟨parse_of_written hparse hapart hwritten, ?_⟩⟩
  · by_contra hcapability
    rw [← flagsCover_iff] at hcapability
    exact hk ((writeCapabilities_keeps_byte hcapability c).of_ok hwritten)
  · rw [← flagsCover_iff] at hcover
    obtain ⟨b, hb⟩ := m.read8_of_lt Layout.flags2 (Nat.lt_of_lt_of_le (by decide) hlarge)
    have hbyte : m.byteAt Layout.flags2 = some b := (Memory.read8_eq_ok_iff _ _ _).1 hb
    have hkept := byteAt_flags_of_writeCapabilities hlarge hcover hwritten
    rw [hbyte] at hkept
    exact ⟨b, hbyte, hkept⟩
  · rintro s rfl rfl cs
    have hs : s.Readable := ⟨hparse, flagsFit_of_written hlarge hwritten, hapart⟩
    obtain ⟨s', hsynced, hheader, hs'⟩ := hs.syncHeaders cs
    exact ⟨s', hsynced, hheader, hheader ▸ hs'.parses⟩

/-- A story of version 5 whose extension table has four words and lies right behind the header. -/
def extendedStory : Memory :=
  let header := (((List.replicate 0x40 0).set 0x00 5).set 0x11 0xFF).set 0x37 0x40
  .ofList (header ++ [0, 4, 0, 0, 0, 0, 0, 0, 0xFF, 0xFF])

theorem writeCapabilities_of_extendedStory :
    ∃ h m', Header.parse extendedStory = .ok h ∧ h.extension = 0x40 ∧ h.extensionCount = 4 ∧
      h.writeCapabilities {} extendedStory = .ok () m' ∧ m'.byteAt 0x48 = some 0 ∧
      h.writeCapabilities {} m' = .ok () m' ∧ m'.byteAt 0x11 = some 0x57 ∧
      Header.parse m' = .ok h := by
  obtain ⟨h, hparse, hextension, hcount, hfault, hflags⟩ :
      ∃ h, Header.parse extendedStory = .ok h ∧ h.extension = 0x40 ∧ h.extensionCount = 4 ∧
        fault? (h.writeCapabilities {} extendedStory) = none ∧
        (endState (h.writeCapabilities {} extendedStory)).byteAt 0x48 = some 0 :=
    exists_ok (by decide +kernel)
  have hwritten := eq_ok_of_fault? hfault
  obtain ⟨hagain, -, -, hkept, hlayout⟩ := Header.writeCapabilities_keeps_layout hparse hwritten
  obtain ⟨b, hb, hb'⟩ := hkept (by omega)
  obtain rfl : b = 0xFF := Option.some.inj (hb.symm.trans (by decide +kernel))
  exact ⟨h, _, hparse, hextension, hcount, hwritten, hflags, hagain, hb',
    (hlayout (by omega)).1⟩

end ZMachine
