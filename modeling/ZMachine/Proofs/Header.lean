import ZMachine.Proofs.Execution.Setting
import ZMachine.Proofs.Memory

/-!
# Writing into the header

A header that was read is there as a whole, so what the machine writes into it is in range; only the
word of the extension table may not be.  The header is brought up to date just if that word is
absent or in range:

    FlagsFit h size         →  writeCapabilities h c m = .ok () m'
    not (FlagsFit h size)   →  writeCapabilities h c m = .error (.outOfRange ⟨a, 2, size⟩) m'

In both cases `m'` differs from `m` in the bytes of the capabilities only.  Of the low byte of flags 2
just the bits that are kept have a part in it, and they are all that is left of the byte, unless the
word of the extension table lies over it.
-/

namespace ZMachine

/-! ## Single writes -/

namespace Memory

theorem write8_of_lt {m : Memory} {a : Nat} (h : a < m.size) (v : UInt8) :
    write8 a v m = .ok () (m.set8 a v) :=
  if_pos h

theorem write16_of_lt {m : Memory} {a : Nat} (h : a + 1 < m.size) (v : UInt16) :
    write16 a v m = .ok () (m.setBytes a (wordBytes v)) :=
  if_pos h

theorem write16_of_not_lt {m : Memory} {a : Nat} (h : ¬ a + 1 < m.size) (v : UInt16) :
    write16 a v m = .error (.outOfRange ⟨a, 2, m.size⟩) m :=
  if_neg h

/-- After a byte that is in range, the rest goes on in a memory of the same size. -/
theorem write8_bind {α : Type} {m : Memory} {a : Nat} (h : a < m.size) (v : UInt8)
    (g : Unit → MemoryM α) :
    ∃ m' : Memory, m'.size = m.size ∧ (write8 a v >>= g) m = g () m' :=
  ⟨m.set8 a v, size_set8 m a v, bind_ok (write8_of_lt h v)⟩

/-- After a word that is in range, the rest goes on in a memory of the same size. -/
theorem write16_bind {α : Type} {m : Memory} {a : Nat} (h : a + 1 < m.size) (v : UInt16)
    (g : Unit → MemoryM α) :
    ∃ m' : Memory, m'.size = m.size ∧ (write16 a v >>= g) m = g () m' :=
  ⟨m.setBytes a (wordBytes v), size_setBytes m a (wordBytes v), bind_ok (write16_of_lt h v)⟩

/-- Memories with the same bytes are the same. -/
theorem eq_of_bytes {m m' : Memory} (h : ∀ k : Nat, m.bytes[k]? = m'.bytes[k]?) : m = m' :=
  congrArg Memory.mk (Array.ext_getElem? h)

theorem set8_set8_self (m : Memory) (a : Nat) (v w : UInt8) :
    (m.set8 a v).set8 a w = m.set8 a w := by
  refine eq_of_bytes (fun k => ?_)
  rw [getElem?_set8, getElem?_set8, getElem?_set8, size_set8]
  by_cases h : a = k ∧ a < m.size
  · rw [if_pos h, if_pos h]
  · rw [if_neg h, if_neg h, if_neg h]

theorem set8_comm (m : Memory) {a b : Nat} (hab : a ≠ b) (v w : UInt8) :
    (m.set8 a v).set8 b w = (m.set8 b w).set8 a v := by
  refine eq_of_bytes (fun k => ?_)
  rw [getElem?_set8, getElem?_set8, getElem?_set8, getElem?_set8, size_set8, size_set8]
  by_cases hb : b = k ∧ b < m.size
  · rw [if_pos hb, if_neg (by omega), if_pos hb]
  · rw [if_neg hb, if_neg hb]

variable {k : Nat}

/-- The byte at an address, if there is one. -/
def byteAt (k : Nat) (m : Memory) : Option UInt8 :=
  m.bytes[k]?

theorem byteAt_set8_self {m : Memory} {a : Nat} (h : a < m.size) (v : UInt8) :
    (m.set8 a v).byteAt a = some v := by
  unfold byteAt
  rw [getElem?_set8, if_pos ⟨rfl, h⟩]

theorem byteAt_set8_of_ne (m : Memory) {a : Nat} (h : a ≠ k) (v : UInt8) :
    (m.set8 a v).byteAt k = m.byteAt k := by
  unfold byteAt
  rw [getElem?_set8, if_neg (fun hk => h hk.1)]

/-- A byte that is replaced by itself. -/
theorem set8_of_byteAt {m : Memory} {b : UInt8} (h : m.byteAt k = some b) : m.set8 k b = m := by
  refine eq_of_bytes (fun j => ?_)
  rw [getElem?_set8]
  by_cases hj : k = j ∧ k < m.size
  · rw [if_pos hj, ← hj.1]
    exact h.symm
  · rw [if_neg hj]

theorem write8_keeps_byte {a : Nat} (h : k ≠ a) (v : UInt8) : Keeps (byteAt k) (write8 a v) := by
  intro m
  unfold write8
  split
  · show (m.set8 a v).bytes[k]? = m.bytes[k]?
    rw [getElem?_set8, if_neg (by omega)]
  · rfl

theorem write16_keeps_byte {a : Nat} (h : k ≠ a) (h' : k ≠ a + 1) (v : UInt16) :
    Keeps (byteAt k) (write16 a v) := by
  intro m
  unfold write16
  split
  · exact getElem?_setBytes_outside m a k (wordBytes v) (by simp; omega)
  · rfl

end Memory

namespace Header

/-! ## The header that was read -/

/-- A story with a header has all its bytes. -/
theorem size_of_parse {m : Memory} {h : Header} (hparse : parse m = .ok h) :
    Layout.size ≤ m.size := by
  by_cases hsize : m.size < Layout.size
  · have hlast : m.read8 (Layout.size - 1) = .error ⟨Layout.size - 1, 1, m.size⟩ := by
      unfold Memory.read8
      unfold Memory.size Layout.size at hsize
      rw [dif_neg (by unfold Layout.size; omega)]
    unfold parse at hparse
    obtain ⟨version, -, hparse⟩ := except_bind_eq_ok hparse
    dsimp only at hparse
    by_cases hversion : version ≠ 5 ∧ version ≠ 8
    · rw [if_pos hversion] at hparse
      cases hparse
    · rw [if_neg hversion, if_pos hsize] at hparse
      obtain ⟨b, hb, -⟩ := except_bind_eq_ok hparse
      rw [hlast] at hb
      cases hb
  · omega

/-! ## Capabilities -/

/-- The addresses that capabilities are written to. -/
def capabilityAddresses : List Nat :=
  [0x01, 0x11, 0x20, 0x21, 0x22, 0x23, 0x24, 0x25, 0x26, 0x27, 0x32, 0x33]

/-- A byte that capabilities are written to. -/
def IsCapability (h : Header) (k : Nat) : Prop :=
  k ∈ capabilityAddresses ∨ h.hasExtensionWord Layout.flags3Word = true ∧
    (k = h.extensionAddress Layout.flags3Word ∨ k = h.extensionAddress Layout.flags3Word + 1)

/-- The third set of flags is absent or in range. -/
def FlagsFit (h : Header) (size : Nat) : Prop :=
  h.hasExtensionWord Layout.flags3Word = true → h.extensionAddress Layout.flags3Word + 1 < size

instance (h : Header) (size : Nat) : Decidable (h.FlagsFit size) :=
  inferInstanceAs (Decidable (_ → _))

/-- A byte that the third set of flags lies over. -/
def FlagsCover (h : Header) (k : Nat) : Prop :=
  h.hasExtensionWord Layout.flags3Word = true ∧
    (k = h.extensionAddress Layout.flags3Word ∨ k = h.extensionAddress Layout.flags3Word + 1)

instance (h : Header) (k : Nat) : Decidable (h.FlagsCover k) :=
  inferInstanceAs (Decidable (_ ∧ _))

/-- What is written behind the first two sets of flags: the sizes of the screen and of a letter, the
revision of the standard, and the third set of flags. -/
def writeScreen (h : Header) (c : Config) : MemoryM Unit := do
  Memory.write8 Layout.screenHeight 255
  Memory.write8 Layout.screenWidth c.width
  Memory.write16 Layout.screenWidthUnits c.width.toUInt16
  Memory.write16 Layout.screenHeightUnits 255
  Memory.write16 Layout.fontMetrics 0x0101
  Memory.write8 Layout.standardRevision 1
  Memory.write8 (Layout.standardRevision + 1) (if c.securityOverride then 2 else 0)
  let _ ← h.setExtensionWord Layout.flags3Word 0

theorem writeCapabilities_eq (h : Header) (c : Config) :
    h.writeCapabilities c = (do
      Memory.write8 Layout.flags1 (capabilityFlags c)
      let flags ← (← get).read8 Layout.flags2
      Memory.write8 Layout.flags2 (keptFlags flags)
      h.writeScreen c) :=
  rfl

theorem writeScreen_keeps_byte {h : Header} {k : Nat} (hk : k ∉ capabilityAddresses.drop 2)
    (hcover : ¬ h.FlagsCover k) (c : Config) : Keeps (Memory.byteAt k) (h.writeScreen c) := by
  have hne (a : Nat) (ha : a ∈ capabilityAddresses.drop 2) : k ≠ a := by
    intro hka
    exact hk (hka ▸ ha)
  have hbyte (a : Nat) (ha : a ∈ capabilityAddresses.drop 2) (v : UInt8) :
      Keeps (Memory.byteAt k) (Memory.write8 a v) :=
    Memory.write8_keeps_byte (hne a ha) v
  have hword (a : Nat) (ha : a ∈ capabilityAddresses.drop 2)
      (ha' : a + 1 ∈ capabilityAddresses.drop 2) (v : UInt16) :
      Keeps (Memory.byteAt k) (Memory.write16 a v) :=
    Memory.write16_keeps_byte (hne a ha) (hne (a + 1) ha') v
  have hextension : Keeps (Memory.byteAt k) (h.setExtensionWord Layout.flags3Word 0) := by
    unfold setExtensionWord
    refine keeps_ite (fun hhas => ?_) (fun _ => keeps_pure false)
    refine keeps_bind (Memory.write16_keeps_byte (fun hka => ?_) (fun hka => ?_) 0)
      (fun _ => keeps_pure true)
    · exact hcover ⟨hhas, .inl hka⟩
    · exact hcover ⟨hhas, .inr hka⟩
  unfold writeScreen
  refine keeps_bind (hbyte _ (by decide) _) (fun _ => ?_)
  refine keeps_bind (hbyte _ (by decide) _) (fun _ => ?_)
  refine keeps_bind (hword _ (by decide) (by decide) _) (fun _ => ?_)
  refine keeps_bind (hword _ (by decide) (by decide) _) (fun _ => ?_)
  refine keeps_bind (hword _ (by decide) (by decide) _) (fun _ => ?_)
  refine keeps_bind (hbyte _ (by decide) _) (fun _ => ?_)
  refine keeps_bind (hbyte _ (by decide) _) (fun _ => ?_)
  exact keeps_bind hextension (fun _ => keeps_pure ())

theorem writeCapabilities_keeps_byte {h : Header} {k : Nat} (hk : ¬ h.IsCapability k) (c : Config) :
    Keeps (Memory.byteAt k) (h.writeCapabilities c) := by
  have hne (a : Nat) (ha : a ∈ capabilityAddresses) : k ≠ a := by
    intro hka
    exact hk (.inl (hka ▸ ha))
  have hscreen : k ∉ capabilityAddresses.drop 2 :=
    fun hmem => hk (.inl (List.mem_of_mem_drop hmem))
  rw [writeCapabilities_eq]
  refine keeps_bind (Memory.write8_keeps_byte (hne _ (by decide)) _) (fun _ => ?_)
  refine keeps_bind keeps_get (fun m => keeps_bind (keeps_liftOutOfRange _) (fun flags => ?_))
  refine keeps_bind (Memory.write8_keeps_byte (hne _ (by decide)) _) (fun _ => ?_)
  exact writeScreen_keeps_byte hscreen (fun hcover => hk (.inr hcover)) c

/-- Of flags 2 only the bits that are kept have a part in what is written. -/
theorem writeCapabilities_of_flags (h : Header) (c : Config) {m : Memory} {b : UInt8}
    (hm : Layout.size ≤ m.size) (hb : m.byteAt Layout.flags2 = some b) :
    h.writeCapabilities c m = h.writeScreen c
      ((m.set8 Layout.flags1 (capabilityFlags c)).set8 Layout.flags2 (keptFlags b)) := by
  have hsize : 64 ≤ m.size := hm
  have hfirst : Layout.flags1 < m.size := by
    unfold Layout.flags1
    omega
  have hsecond : Layout.flags2 < (m.set8 Layout.flags1 (capabilityFlags c)).size := by
    rw [Memory.size_set8]
    unfold Layout.flags2
    omega
  have hread : (m.set8 Layout.flags1 (capabilityFlags c)).read8 Layout.flags2 = .ok b := by
    refine (Memory.read8_eq_ok_iff _ _ _).2 ?_
    exact (Memory.byteAt_set8_of_ne m (by decide) _).trans hb
  rw [writeCapabilities_eq, bind_ok (Memory.write8_of_lt hfirst _), get_bind, hread]
  exact bind_ok (Memory.write8_of_lt hsecond _)

/-- A byte of flags 2 counts for as much as its bits that are kept. -/
theorem writeCapabilities_congr (h : Header) (c : Config) {m : Memory} {b b' : UInt8}
    (hm : Layout.size ≤ m.size) (hb : keptFlags b' = keptFlags b) :
    h.writeCapabilities c (m.set8 Layout.flags2 b') =
      h.writeCapabilities c (m.set8 Layout.flags2 b) := by
  have hflags : Layout.flags2 < m.size := by
    have : 64 ≤ m.size := hm
    unfold Layout.flags2
    omega
  have hsize (v : UInt8) : Layout.size ≤ (m.set8 Layout.flags2 v).size := by
    rwa [Memory.size_set8]
  rw [writeCapabilities_of_flags h c (hsize b') (Memory.byteAt_set8_self hflags b'),
    writeCapabilities_of_flags h c (hsize b) (Memory.byteAt_set8_self hflags b), hb,
    Memory.set8_comm m (by decide), Memory.set8_set8_self,
    Memory.set8_comm m (by decide) b, Memory.set8_set8_self]

/-- The bits that are kept are what is left of flags 2. -/
theorem byteAt_flags_of_writeCapabilities {h : Header} {c : Config} {m m' : Memory}
    (hm : Layout.size ≤ m.size) (hcover : ¬ h.FlagsCover Layout.flags2)
    (hwritten : h.writeCapabilities c m = .ok () m') :
    m'.byteAt Layout.flags2 = (m.byteAt Layout.flags2).map keptFlags := by
  have hflags : Layout.flags2 < m.size := by
    have : 64 ≤ m.size := hm
    unfold Layout.flags2
    omega
  obtain ⟨b, hb⟩ := m.read8_of_lt Layout.flags2 hflags
  have hbyte : m.byteAt Layout.flags2 = some b := (Memory.read8_eq_ok_iff _ _ _).1 hb
  rw [writeCapabilities_of_flags h c hm hbyte] at hwritten
  rw [(writeScreen_keeps_byte (by decide) hcover c).of_ok hwritten, hbyte]
  exact Memory.byteAt_set8_self (by rwa [Memory.size_set8]) _

/-- All capabilities but the third set of flags are written. -/
theorem writeCapabilities_run (h : Header) (c : Config) {m : Memory} (hm : Layout.size ≤ m.size) :
    ∃ m' : Memory, m'.size = m.size ∧ h.writeCapabilities c m =
      (do let _ ← h.setExtensionWord Layout.flags3Word 0 : MemoryM Unit) m' := by
  have hlt {m' : Memory} (hs : m'.size = m.size) {a : Nat} (ha : a < 64) : a < m'.size := by
    have : 64 ≤ m.size := hm
    omega
  obtain ⟨b, hb⟩ := m.read8_of_lt Layout.flags2 (hlt rfl (by decide))
  rw [writeCapabilities_of_flags h c hm ((Memory.read8_eq_ok_iff _ _ _).1 hb)]
  have hs2 : ((m.set8 Layout.flags1 (capabilityFlags c)).set8 Layout.flags2 (keptFlags b)).size =
      m.size := by
    rw [Memory.size_set8, Memory.size_set8]
  unfold writeScreen
  obtain ⟨m3, hs3, h3⟩ := Memory.write8_bind (hlt hs2 (by decide : Layout.screenHeight < 64)) _ _
  have hs3 := hs3.trans hs2
  rw [h3]
  obtain ⟨m4, hs4, h4⟩ := Memory.write8_bind (hlt hs3 (by decide : Layout.screenWidth < 64)) _ _
  have hs4 := hs4.trans hs3
  rw [h4]
  obtain ⟨m5, hs5, h5⟩ :=
    Memory.write16_bind (hlt hs4 (by decide : Layout.screenWidthUnits + 1 < 64)) _ _
  have hs5 := hs5.trans hs4
  rw [h5]
  obtain ⟨m6, hs6, h6⟩ :=
    Memory.write16_bind (hlt hs5 (by decide : Layout.screenHeightUnits + 1 < 64)) _ _
  have hs6 := hs6.trans hs5
  rw [h6]
  obtain ⟨m7, hs7, h7⟩ := Memory.write16_bind (hlt hs6 (by decide : Layout.fontMetrics + 1 < 64)) _ _
  have hs7 := hs7.trans hs6
  rw [h7]
  obtain ⟨m8, hs8, h8⟩ := Memory.write8_bind (hlt hs7 (by decide : Layout.standardRevision < 64)) _ _
  have hs8 := hs8.trans hs7
  rw [h8]
  obtain ⟨m9, hs9, h9⟩ :=
    Memory.write8_bind (hlt hs8 (by decide : Layout.standardRevision + 1 < 64)) _ _
  rw [h9]
  exact ⟨m9, hs9.trans hs8, rfl⟩

/-- The header is brought up to date if the third set of flags is absent or in range. -/
theorem writeCapabilities_eq_ok {h : Header} {m : Memory} (hm : Layout.size ≤ m.size)
    (hfit : h.FlagsFit m.size) (c : Config) : ∃ m', h.writeCapabilities c m = .ok () m' := by
  obtain ⟨m', hsize, hrun⟩ := writeCapabilities_run h c hm
  rw [hrun]
  unfold setExtensionWord
  by_cases hhas : h.hasExtensionWord Layout.flags3Word = true
  · have hin : h.extensionAddress Layout.flags3Word + 1 < m'.size := hsize ▸ hfit hhas
    rw [if_pos hhas]
    refine ⟨m'.setBytes (h.extensionAddress Layout.flags3Word) (wordBytes 0), ?_⟩
    exact bind_ok (bind_ok (Memory.write16_of_lt hin 0))
  · rw [if_neg hhas]
    exact ⟨m', rfl⟩

/-- Else it is told where the third set of flags would be. -/
theorem writeCapabilities_eq_error {h : Header} {m : Memory} (hm : Layout.size ≤ m.size)
    (hfit : ¬ h.FlagsFit m.size) (c : Config) :
    ∃ m', h.writeCapabilities c m =
      .error (.outOfRange ⟨h.extensionAddress Layout.flags3Word, 2, m.size⟩) m' := by
  obtain ⟨m', hsize, hrun⟩ := writeCapabilities_run h c hm
  rw [hrun]
  unfold FlagsFit at hfit
  have hhas : h.hasExtensionWord Layout.flags3Word = true := by
    by_cases hhas : h.hasExtensionWord Layout.flags3Word = true
    · exact hhas
    · exact absurd (fun h => absurd h hhas) hfit
  have hout : ¬ h.extensionAddress Layout.flags3Word + 1 < m'.size := by
    rw [hsize]
    exact fun hin => hfit (fun _ => hin)
  unfold setExtensionWord
  rw [if_pos hhas, ← hsize]
  exact ⟨m', bind_error (bind_error (Memory.write16_of_not_lt hout 0))⟩

end Header

/-! ## The machine after it -/

namespace Machine

/-- Bringing the header of a machine up to date changes the bytes of the capabilities and puts the
random numbers back, nothing else. -/
theorem syncHeader_eq_ok {s : Machine} (hsize : Layout.size ≤ s.memory.size)
    (hfit : s.header.FlagsFit s.memory.size) (c : Config) :
    ∃ memory, syncHeader c s = .ok () { s with random := {}, memory } ∧
      memory.size = s.memory.size ∧
      ∀ k, ¬ s.header.IsCapability k → memory.bytes[k]? = s.memory.bytes[k]? := by
  obtain ⟨memory, hmemory⟩ := Header.writeCapabilities_eq_ok hsize hfit c
  refine ⟨memory, ?_, ?_, fun k hk => ?_⟩
  · show onMemory (s.header.writeCapabilities c) { s with random := {} } = _
    rw [onMemory_run, hmemory]
  · exact (Header.writeCapabilities_keeps_size s.header c).of_ok hmemory
  · exact (Header.writeCapabilities_keeps_byte hk c).of_ok hmemory

theorem syncHeader_eq_error {s : Machine} (hsize : Layout.size ≤ s.memory.size)
    (hfit : ¬ s.header.FlagsFit s.memory.size) (c : Config) :
    ∃ memory, syncHeader c s =
      .error (.outOfRange ⟨s.header.extensionAddress Layout.flags3Word, 2, s.memory.size⟩)
        { s with random := {}, memory } := by
  obtain ⟨memory, hmemory⟩ := Header.writeCapabilities_eq_error hsize hfit c
  refine ⟨memory, ?_⟩
  show onMemory (s.header.writeCapabilities c) { s with random := {} } = _
  rw [onMemory_run, hmemory]

end Machine
end ZMachine
