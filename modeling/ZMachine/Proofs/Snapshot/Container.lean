import ZMachine.Proofs.Action
import ZMachine.Proofs.Memory
import ZMachine.Proofs.Wire.Snapshot
import ZMachine.Snapshot.Container

/-!
# The save container is read back

What is written for a snapshot is read as that snapshot:

    expand (compress m story) story = .ok m                          when m has the size of the story
    nextSection (tag ++ length ++ p ++ rest) = .ok (tag, p, rest)    when p fits a double word
    decode (encode p story) story = .ok p                            when its numbers fit

and whatever is read for a story, from any bytes, has a memory of the size of the story.

`Spells` is the form of a payload of differences, apart from how it is computed.
-/

namespace ZMachine.Snapshot

/-! ## Numbers -/

theorem shiftLeft_or (x y k : Nat) (h : y < 2 ^ k) : x <<< k ||| y = x * 2 ^ k + y := by
  rw [← Nat.shiftLeft_add_eq_or_of_lt h, Nat.shiftLeft_eq]

theorem toNat_doubleWord (a b c d : UInt8) :
    (doubleWord a b c d).toNat = ((a.toNat * 256 + b.toNat) * 256 + c.toNat) * 256 + d.toNat := by
  have ha := a.toNat_lt
  have hb := b.toNat_lt
  have hc := c.toNat_lt
  have hd := d.toNat_lt
  have hshift (x k : Nat) (hx : x < 2 ^ 8) (hk : k ≤ 24) : x <<< k % 2 ^ 32 = x <<< k := by
    apply Nat.mod_eq_of_lt
    rw [Nat.shiftLeft_eq]
    calc x * 2 ^ k < 2 ^ 8 * 2 ^ k := Nat.mul_lt_mul_of_pos_right hx (Nat.two_pow_pos k)
      _ ≤ 2 ^ 8 * 2 ^ 24 := Nat.mul_le_mul_left _ (Nat.pow_le_pow_right (by omega) hk)
  unfold doubleWord
  simp only [UInt32.toNat_or, UInt32.toNat_shiftLeft, UInt8.toNat_toUInt32, UInt32.reduceToNat,
    Nat.reduceMod]
  rw [hshift _ 24 ha (by omega), hshift _ 16 hb (by omega), hshift _ 8 hc (by omega)]
  rw [Nat.or_assoc, Nat.or_assoc, shiftLeft_or c.toNat d.toNat 8 hd,
    shiftLeft_or b.toNat _ 16 (by omega), shiftLeft_or a.toNat _ 24 (by omega)]
  omega

theorem doubleWord_doubleWordBytes (n : UInt32) :
    doubleWord (n >>> 24).toUInt8 (n >>> 16).toUInt8 (n >>> 8).toUInt8 n.toUInt8 = n := by
  apply UInt32.toNat_inj.1
  rw [toNat_doubleWord]
  have := n.toNat_lt
  simp only [UInt32.toNat_toUInt8, UInt32.toNat_shiftRight, UInt32.reduceToNat, Nat.reduceMod,
    Nat.shiftRight_eq_div_pow]
  omega

/-! ## Differences -/

/-- A payload that stands for differences: a zero and a count for a run of zeros, every other
difference for itself. -/
inductive Spells : (payload differences : List UInt8) → Prop
  | nil : Spells [] []
  | zeros (n : UInt8) {rest ds : List UInt8} (h : Spells rest ds) :
    Spells (0 :: n :: rest) (List.replicate (n.toNat + 1) 0 ++ ds)
  | byte {x : UInt8} (hx : x ≠ 0) {rest ds : List UInt8} (h : Spells rest ds) :
    Spells (x :: rest) (x :: ds)

theorem Spells.append {p q ds es : List UInt8} (hp : Spells p ds) (hq : Spells q es) :
    Spells (p ++ q) (ds ++ es) := by
  induction hp with
  | nil => exact hq
  | zeros n h ih =>
    rw [List.append_assoc]
    exact .zeros n ih
  | byte hx h ih => exact .byte hx ih

theorem append_list_eq (out : Array UInt8) (l : List UInt8) : out ++ l = out ++ l.toArray :=
  Array.ext' (by simp)

theorem expandTo_zeros (limit : Nat) (out : Array UInt8) (n : UInt8) (rest : List UInt8)
    (h : out.size + (n.toNat + 1) ≤ limit) :
    expandTo limit out (0 :: n :: rest) =
      expandTo limit (out ++ List.replicate (n.toNat + 1) (0 : UInt8)) rest := by
  rw [expandTo, if_pos (by simpa [append_list_eq] using h)]

theorem expandTo_byte (limit : Nat) (out : Array UInt8) {x : UInt8} (hx : x ≠ 0)
    (rest : List UInt8) (h : out.size + 1 ≤ limit) :
    expandTo limit out (x :: rest) = expandTo limit (out.push x) rest := by
  rw [expandTo.eq_3 limit out x rest (fun _ _ h0 _ => hx h0), if_neg hx, if_pos (by simpa using h)]

/-- Differences that fit in the limit are read from a payload that spells them. -/
theorem expandTo_of_spells {limit : Nat} {payload ds : List UInt8} (h : Spells payload ds) :
    ∀ out : Array UInt8, out.size + ds.length ≤ limit →
      expandTo limit out payload = .ok (out ++ ds.toArray) := by
  induction h with
  | nil =>
    intro out _
    rw [expandTo, Array.append_empty]
    rfl
  | zeros n h ih =>
    intro out hlimit
    simp only [List.length_append, List.length_replicate] at hlimit
    rw [expandTo_zeros limit out n _ (by omega), append_list_eq, ih _ (by simp; omega)]
    exact congrArg Except.ok (Array.ext' (by simp))
  | byte hx h ih =>
    intro out hlimit
    simp only [List.length_cons] at hlimit
    rw [expandTo_byte limit out hx _ (by omega), ih _ (by simp; omega)]
    simp

/-- A run of zeros is spelled in pieces. -/
theorem zeroRun_spells (zeros : Nat) (out : Array UInt8) :
    ∃ p, (zeroRun zeros out).toList = out.toList ++ p ∧ Spells p (List.replicate zeros 0) := by
  have hfull (k : Nat) : Spells (List.replicate k [(0 : UInt8), 255]).flatten
      (List.replicate (256 * k) 0) := by
    induction k with
    | zero => exact .nil
    | succ k ih =>
      have hpiece := Spells.zeros 255 ih
      rw [show (255 : UInt8).toNat + 1 = 256 from rfl, List.replicate_append_replicate,
        show 256 + 256 * k = 256 * (k + 1) by omega] at hpiece
      exact hpiece
  have hrest (r : Nat) (hr : r < 256) :
      Spells (if r = 0 then [] else [0, UInt8.ofNat (r - 1)]) (List.replicate r 0) := by
    by_cases h0 : r = 0
    · subst h0
      exact .nil
    · rw [if_neg h0]
      have hpiece := Spells.zeros (UInt8.ofNat (r - 1)) .nil
      have hsize : r - 1 < UInt8.size := by
        have : UInt8.size = 256 := rfl
        omega
      rwa [UInt8.toNat_ofNat_of_lt' hsize, show r - 1 + 1 = r by omega,
        List.append_nil] at hpiece
  have hall := (hfull (zeros / 256)).append (hrest (zeros % 256) (Nat.mod_lt _ (by omega)))
  rw [List.replicate_append_replicate, Nat.div_add_mod] at hall
  refine ⟨_, ?_, hall⟩
  unfold zeroRun
  simp [List.append_assoc]

/-- Compressing spells the differences but for the zeros at the end. -/
theorem compressTo_spells (as bs : List UInt8) :
    ∀ (out : Array UInt8) (zeros : Nat), ∃ p ds more,
      (compressTo out zeros as bs).toList = out.toList ++ p ∧ Spells p ds ∧
        ds ++ List.replicate more 0 = List.replicate zeros 0 ++ List.zipWith (· ^^^ ·) as bs := by
  induction as generalizing bs with
  | nil =>
    intro out zeros
    refine ⟨[], [], zeros, ?_, .nil, ?_⟩
    · simp [compressTo]
    · simp
  | cons a as ih =>
    cases bs with
    | nil =>
      intro out zeros
      refine ⟨[], [], zeros, ?_, .nil, ?_⟩
      · simp [compressTo]
      · simp
    | cons b bs =>
      intro out zeros
      unfold compressTo
      by_cases hab : a ^^^ b = 0
      · rw [if_pos hab]
        obtain ⟨p, ds, more, hp, hspells, hds⟩ := ih bs out (zeros + 1)
        refine ⟨p, ds, more, hp, hspells, ?_⟩
        rw [hds, List.zipWith_cons_cons, hab, List.replicate_succ', List.append_assoc]
        rfl
      · rw [if_neg hab]
        obtain ⟨z, hz, hzspells⟩ := zeroRun_spells zeros out
        obtain ⟨p, ds, more, hp, hspells, hds⟩ := ih bs ((zeroRun zeros out).push (a ^^^ b)) 0
        refine ⟨z ++ (a ^^^ b) :: p, List.replicate zeros 0 ++ (a ^^^ b) :: ds, more, ?_,
          hzspells.append (.byte hab hspells), ?_⟩
        · rw [hp, Array.toList_push, hz]
          simp
        · rw [List.zipWith_cons_cons, List.append_assoc, List.cons_append, hds]
          rfl

/-- Zeros at the end make no difference to what is found at an index. -/
theorem getD_of_padded {ds es : List UInt8} {more : Nat} (h : ds ++ List.replicate more 0 = es)
    (i : Nat) : ds.getD i 0 = es.getD i 0 := by
  rw [← h, List.getD_eq_getElem?_getD, List.getD_eq_getElem?_getD, List.getElem?_append]
  by_cases hi : i < ds.length
  · rw [if_pos hi]
  · rw [if_neg hi, List.getElem?_eq_none (by omega), List.getElem?_replicate]
    split <;> rfl

/-- The memory is found again from its differences. -/
theorem expand_compress (m story : Memory) (h : m.size = story.size) :
    expand (compress m story) story = .ok m := by
  obtain ⟨p, ds, more, hp, hspells, hds⟩ := compressTo_spells m.toList story.toList #[] 0
  have hpayload : compress m story = p := by
    unfold compress
    rw [hp]
    rfl
  have hdiff : ds ++ List.replicate more 0 = List.zipWith (· ^^^ ·) m.toList story.toList := by
    rw [hds]
    rfl
  have hlength : ds.length + more = story.size := by
    have := congrArg List.length hdiff
    rw [List.length_append, List.length_replicate, List.length_zipWith] at this
    rw [this]
    show min m.bytes.toList.length story.bytes.toList.length = story.bytes.size
    unfold Memory.size at h
    simp [h]
  have hexpand : expandTo story.size #[] p = .ok (#[] ++ ds.toArray) :=
    expandTo_of_spells hspells #[] (by simp; omega)
  unfold expand
  rw [hpayload, hexpand]
  refine congrArg (fun bytes => Except.ok (Memory.mk bytes)) (Array.ext ?_ (fun i h1 h2 => ?_))
  · rw [Array.size_mapIdx]
    exact h.symm
  · rw [Array.size_mapIdx] at h1
    have hget : ds.getD i 0 = m.bytes[i] ^^^ story.bytes[i] := by
      rw [getD_of_padded hdiff, List.getD_eq_getElem?_getD, List.getElem?_zipWith]
      simp [Memory.toList, h1, h2]
    have hread : (#[] ++ ds.toArray).getD i 0 = ds.getD i 0 := by
      simp
    rw [Array.getElem_mapIdx, hread, hget, UInt8.xor_comm m.bytes[i], ← UInt8.xor_assoc,
      UInt8.xor_self, UInt8.zero_xor]

/-! ## Sections -/

theorem sectionOf?_tagBytes (s : Section) : sectionOf? (tagBytes s) = some s := by
  cases s <;> decide

/-- A section is split off if what follows its length is long enough. -/
theorem nextSection_run {tag : List UInt8} (htag : tag.length = 4) (n : UInt32)
    (rest : List UInt8) : nextSection (tag ++ doubleWordBytes n ++ rest) =
      if n.toNat ≤ rest.length then .ok (tag, rest.take n.toNat, rest.drop n.toNat)
      else .error .overrun := by
  obtain ⟨t₀, t₁, t₂, t₃, rfl⟩ : ∃ t₀ t₁ t₂ t₃, tag = [t₀, t₁, t₂, t₃] := by
    match tag, htag with
    | [t₀, t₁, t₂, t₃], _ => exact ⟨t₀, t₁, t₂, t₃, rfl⟩
  unfold doubleWordBytes
  simp only [List.cons_append, List.nil_append]
  unfold nextSection
  dsimp only
  rw [doubleWord_doubleWordBytes]
  rfl

/-- A section is split off again, whatever follows it. -/
theorem nextSection_framed {tag payload : List UInt8} (htag : tag.length = 4)
    (hpayload : payload.length < 2 ^ 32) (rest : List UInt8) :
    nextSection (tag ++ doubleWordBytes (.ofNat payload.length) ++ payload ++ rest) =
      .ok (tag, payload, rest) := by
  rw [List.append_assoc _ payload rest, nextSection_run htag, UInt32.toNat_ofNat_of_lt' hpayload,
    if_pos (by simp), List.take_left, List.drop_left]

theorem readSections_framed (story : Memory) (fuel : Nat) (parts : Parts) {tag payload : List UInt8}
    (htag : tag.length = 4) (hpayload : payload.length < 2 ^ 32) (rest : List UInt8) :
    readSections story (fuel + 1) parts
        (tag ++ doubleWordBytes (.ofNat payload.length) ++ payload ++ rest) =
      match sectionOf? tag with
      | some s => (do readSections story fuel (← parts.add story s payload) rest)
      | none => readSections story fuel parts rest := by
  have hnext := nextSection_framed htag hpayload rest
  cases hbytes : tag ++ doubleWordBytes (.ofNat payload.length) ++ payload ++ rest with
  | nil =>
    rw [hbytes] at hnext
    cases hnext
  | cons b bytes =>
    rw [hbytes] at hnext
    conv =>
      lhs
      unfold readSections
    rw [hnext]
    rfl

theorem readSections_sectionBytes (story : Memory) (fuel : Nat) (parts : Parts) (s : Section)
    (payload rest : List UInt8) (h : payload.length < 2 ^ 32) :
    readSections story (fuel + 1) parts (sectionBytes s payload ++ rest) = (do
      readSections story fuel (← parts.add story s payload) rest) := by
  have htag : (tagBytes s).length = 4 := by cases s <;> rfl
  unfold sectionBytes
  rw [readSections_framed story fuel parts htag h rest, sectionOf?_tagBytes]

/-! ## The container -/

/-- The numbers of a snapshot fit the places they are written to: 32 bits for the lengths of the
sections, and 64 bits for the heights that frames remember. -/
structure Fits (p : Snapshot) (story : Memory) : Prop where
  memory : (compress p.memory story).length < 2 ^ 32
  stack : p.stack.toJson.compactBytes.length < 2 ^ 32
  streams : p.streams.toJson.compactBytes.length < 2 ^ 32
  heights : ∀ f ∈ p.stack.frames, f.stackBase < UInt64.size

instance (p : Snapshot) (story : Memory) : Decidable (p.Fits story) :=
  decidable_of_iff
    ((compress p.memory story).length < 2 ^ 32 ∧ p.stack.toJson.compactBytes.length < 2 ^ 32 ∧
      p.streams.toJson.compactBytes.length < 2 ^ 32 ∧
      ∀ f ∈ p.stack.frames, f.stackBase < UInt64.size)
    ⟨fun h => ⟨h.1, h.2.1, h.2.2.1, h.2.2.2⟩,
      fun h => ⟨h.memory, h.stack, h.streams, h.heights⟩⟩

theorem serial_eq (v : Vector UInt8 6) :
    v = #v[v[0], v[1], v[2], v[3], v[4], v[5]] := by
  ext i hi
  have hcases : i = 0 ∨ i = 1 ∨ i = 2 ∨ i = 3 ∨ i = 4 ∨ i = 5 := by omega
  rcases hcases with rfl | rfl | rfl | rfl | rfl | rfl <;> rfl

/-- A snapshot whose memory has the size of the story is written. -/
theorem encode_eq_ok (p : Snapshot) (story : Memory) (h : p.memory.size = story.size) :
    encode p story = .ok (magic ++ wordBytes formatVersion ++ wordBytes 0
      ++ sectionBytes .header p.headerPayload
      ++ sectionBytes .memory (compress p.memory story)
      ++ sectionBytes .stack p.stack.toJson.compactBytes
      ++ sectionBytes .streams p.streams.toJson.compactBytes) := by
  unfold encode
  rw [if_neg (by simp [h])]
  rfl

/-- The header section is read back. -/
theorem assemble_headerPayload (p : Snapshot) :
    assemble ⟨some p.headerPayload, some p.memory, some p.stack, some p.streams⟩ = .ok p := by
  obtain ⟨release, serial, checksum, pc, storer, memory, stack, streams⟩ := p
  have hserial : serial.toList =
      [serial[0], serial[1], serial[2], serial[3], serial[4], serial[5]] :=
    congrArg Vector.toList (serial_eq serial)
  have hread (storer : Option Variable) : (Except.ok {
        release := word (highByte release) (lowByte release)
        serial := #v[serial[0], serial[1], serial[2], serial[3], serial[4], serial[5]]
        checksum := word (highByte checksum) (lowByte checksum)
        pc := doubleWord (pc >>> 24).toUInt8 (pc >>> 16).toUInt8 (pc >>> 8).toUInt8 pc.toUInt8
        storer, memory, stack, streams } : Except SaveFault Snapshot) =
      .ok ⟨release, serial, checksum, pc, storer, memory, stack, streams⟩ := by
    rw [word_wordBytes, word_wordBytes, doubleWord_doubleWordBytes, ← serial_eq]
  unfold headerPayload
  dsimp only
  rw [hserial]
  cases storer with
  | none => exact hread none
  | some v => exact hread (some v)

theorem length_headerPayload (p : Snapshot) : p.headerPayload.length = 16 := by
  unfold headerPayload
  cases p.storer <;> simp [doubleWordBytes]

/-- The sections of a snapshot, in the order they are written. -/
def sectionsBytes (p : Snapshot) (story : Memory) : List UInt8 :=
  sectionBytes .header p.headerPayload ++ (sectionBytes .memory (compress p.memory story) ++
    (sectionBytes .stack p.stack.toJson.compactBytes ++
      (sectionBytes .streams p.streams.toJson.compactBytes ++ [])))

/-- All sections of a snapshot are read back. -/
theorem readSections_sectionsBytes {p : Snapshot} {story : Memory}
    (h : p.memory.size = story.size) (hfits : p.Fits story) (fuel : Nat) :
    readSections story (fuel + 4) {} (p.sectionsBytes story) =
      .ok ⟨some p.headerPayload, some p.memory, some p.stack, some p.streams⟩ := by
  have hheader : Parts.add {} story .header p.headerPayload =
      .ok ⟨some p.headerPayload, none, none, none⟩ := rfl
  have hmemory : Parts.add ⟨some p.headerPayload, none, none, none⟩ story .memory
      (compress p.memory story) = .ok ⟨some p.headerPayload, some p.memory, none, none⟩ := by
    unfold Parts.add
    dsimp only
    rw [expand_compress p.memory story h]
    rfl
  have hstack : Parts.add ⟨some p.headerPayload, some p.memory, none, none⟩ story .stack
      p.stack.toJson.compactBytes =
      .ok ⟨some p.headerPayload, some p.memory, some p.stack, none⟩ := by
    unfold Parts.add
    dsimp only
    rw [Stack.ofJson?_compactBytes hfits.heights]
    rfl
  have hstreams : Parts.add ⟨some p.headerPayload, some p.memory, some p.stack, none⟩ story
      .streams p.streams.toJson.compactBytes =
      .ok ⟨some p.headerPayload, some p.memory, some p.stack, some p.streams⟩ := by
    unfold Parts.add
    dsimp only
    rw [OutputStreams.ofJson?_compactBytes p.streams]
    rfl
  have hlength : p.headerPayload.length < 2 ^ 32 := by
    rw [length_headerPayload]
    omega
  unfold sectionsBytes
  rw [readSections_sectionBytes story (fuel + 3) _ _ _ _ hlength, hheader]
  show readSections story (fuel + 3) _ _ = _
  rw [readSections_sectionBytes story (fuel + 2) _ _ _ _ hfits.memory, hmemory]
  show readSections story (fuel + 2) _ _ = _
  rw [readSections_sectionBytes story (fuel + 1) _ _ _ _ hfits.stack, hstack]
  show readSections story (fuel + 1) _ _ = _
  rw [readSections_sectionBytes story fuel _ _ _ _ hfits.streams, hstreams]
  show readSections story fuel _ [] = _
  unfold readSections
  rfl

/-- What is written for a snapshot of a story is read as that snapshot. -/
theorem decode_encode (p : Snapshot) (story : Memory) (h : p.memory.size = story.size)
    (hfits : p.Fits story) :
    ∃ bytes, encode p story = .ok bytes ∧ decode bytes story = .ok p := by
  refine ⟨_, encode_eq_ok p story h, ?_⟩
  have hbytes : magic ++ wordBytes formatVersion ++ wordBytes 0
      ++ sectionBytes .header p.headerPayload
      ++ sectionBytes .memory (compress p.memory story)
      ++ sectionBytes .stack p.stack.toJson.compactBytes
      ++ sectionBytes .streams p.streams.toJson.compactBytes =
      [0x5A, 0x56, 0x4D, 0x53, highByte 1, lowByte 1, highByte 0, lowByte 0] ++
        p.sectionsBytes story := by
    simp [magic, wordBytes, formatVersion, sectionsBytes]
  rw [hbytes]
  have hread : ∀ fuel, 4 ≤ fuel → readSections story fuel {} (p.sectionsBytes story) =
      .ok ⟨some p.headerPayload, some p.memory, some p.stack, some p.streams⟩ := by
    intro fuel hfuel
    obtain ⟨k, rfl⟩ : ∃ k, fuel = k + 4 := ⟨fuel - 4, by omega⟩
    exact readSections_sectionsBytes h hfits k
  have hassemble : decode ([0x5A, 0x56, 0x4D, 0x53, highByte 1, lowByte 1, highByte 0, lowByte 0] ++
      p.sectionsBytes story) story = (do
        assemble (← readSections story ((p.sectionsBytes story).length + 8) {}
          (p.sectionsBytes story))) := by
    have hmagic : ¬ ([0x5A, 0x56, 0x4D, 0x53] : List UInt8) ≠ magic := by decide
    have hversion : ¬ formatVersion < word (highByte 1) (lowByte 1) := by decide
    simp only [List.cons_append, List.nil_append]
    unfold decode
    dsimp only
    rw [if_neg hmagic, if_neg hversion]
    rfl
  rw [hassemble, hread _ (by omega)]
  exact assemble_headerPayload p

/-! ## What is read has the size of the story -/

theorem size_expand {payload : List UInt8} {story m : Memory} (h : expand payload story = .ok m) :
    m.size = story.size := by
  obtain ⟨differences, -, hm⟩ := except_bind_eq_ok h
  cases hm
  exact Array.size_mapIdx

/-- The memory among the parts, if it was read already, has the size of the story. -/
def Parts.Sized (parts : Parts) (story : Memory) : Prop :=
  ∀ m, parts.memory = some m → m.size = story.size

/-- One more section keeps the parts sized: only a memory section has a say, and it expands to the
size of the story. -/
theorem Parts.Sized.add {parts parts' : Parts} {story : Memory} (hparts : parts.Sized story)
    {s : Section} {payload : List UInt8} (h : parts.add story s payload = .ok parts') :
    parts'.Sized story := by
  unfold Parts.add at h
  cases s with
  | header =>
    dsimp only at h
    split at h
    · cases h
    · cases h
      exact hparts
  | memory =>
    dsimp only at h
    split at h
    · cases h
    · obtain ⟨m, hm, hend⟩ := except_bind_eq_ok h
      cases hend
      intro m' hm'
      cases hm'
      exact size_expand hm
  | stack =>
    dsimp only at h
    split at h
    · cases h
    · obtain ⟨stack, -, hend⟩ := except_bind_eq_ok h
      cases hend
      exact hparts
  | streams =>
    dsimp only at h
    split at h
    · cases h
    · obtain ⟨streams, -, hend⟩ := except_bind_eq_ok h
      cases hend
      exact hparts

theorem readSections_sized {story : Memory} (fuel : Nat) :
    ∀ {parts parts' : Parts} {bytes : List UInt8}, parts.Sized story →
      readSections story fuel parts bytes = .ok parts' → parts'.Sized story := by
  induction fuel with
  | zero =>
    intro parts parts' bytes hparts h
    cases bytes with
    | nil =>
      cases h
      exact hparts
    | cons b rest => cases h
  | succ fuel ih =>
    intro parts parts' bytes hparts h
    cases bytes with
    | nil =>
      cases h
      exact hparts
    | cons b rest =>
      unfold readSections at h
      obtain ⟨⟨tag, payload, more⟩, -, h⟩ := except_bind_eq_ok h
      dsimp only at h
      split at h
      · obtain ⟨next, hadd, hmore⟩ := except_bind_eq_ok h
        exact ih (hparts.add hadd) hmore
      · exact ih hparts h

theorem orFail_eq_ok {α : Type} {e : SaveFault} {o : Option α} {a : α} (h : orFail e o = .ok a) :
    o = some a := by
  cases o with
  | none => cases h
  | some b =>
    cases h
    rfl

theorem assemble_memory {parts : Parts} {p : Snapshot} (h : assemble parts = .ok p) :
    parts.memory = some p.memory := by
  unfold assemble at h
  obtain ⟨header, -, h⟩ := except_bind_eq_ok h
  split at h
  · obtain ⟨memory, hmemory, h⟩ := except_bind_eq_ok h
    obtain ⟨stack, -, h⟩ := except_bind_eq_ok h
    cases h
    exact orFail_eq_ok hmemory
  · cases h

theorem size_of_decode {bytes : List UInt8} {story : Memory} {p : Snapshot}
    (h : decode bytes story = .ok p) : p.memory.size = story.size := by
  unfold decode at h
  split at h
  · next m₀ m₁ m₂ m₃ v₀ v₁ _ _ rest =>
    by_cases hmagic : [m₀, m₁, m₂, m₃] ≠ magic
    · rw [if_pos hmagic] at h
      cases h
    by_cases hversion : formatVersion < word v₀ v₁
    · rw [if_neg hmagic, if_pos hversion] at h
      cases h
    rw [if_neg hmagic, if_neg hversion] at h
    obtain ⟨parts, hread, hassemble⟩ := except_bind_eq_ok h
    have hsized : parts.Sized story := readSections_sized _ (fun m hm => by cases hm) hread
    exact hsized p.memory (assemble_memory hassemble)
  · cases h

/-- A snapshot of a story is written, and if its numbers fit it is read back; whatever is read for a
story has a memory of the size of the story. -/
theorem container_roundtrip (story : Memory) :
    (∀ p : Snapshot, p.memory.size = story.size →
      ∃ bytes, encode p story = .ok bytes ∧ (p.Fits story → decode bytes story = .ok p)) ∧
    ∀ (bytes : List UInt8) (p : Snapshot), decode bytes story = .ok p →
      p.memory.size = story.size := by
  constructor
  · intro p hsize
    refine ⟨_, encode_eq_ok p story hsize, fun hfits => ?_⟩
    obtain ⟨bytes, hencode, hdecode⟩ := decode_encode p story hsize hfits
    rw [encode_eq_ok p story hsize] at hencode
    cases hencode
    exact hdecode
  · intro bytes p h
    exact size_of_decode h

/-- Three hundred zeros between two bytes, the zeros being more than one run can stand for. -/
def sampleStory : Memory :=
  .ofList (7 :: List.replicate 300 0 ++ [9])

/-- A point inside a routine where the outer bytes of the story have changed. -/
def sample : Snapshot where
  release := 3
  serial := #v[0x32, 0x36, 0x30, 0x31, 0x30, 0x31]
  checksum := 0xBEEF
  pc := 0x12345
  storer := some ⟨16⟩
  memory := .ofList (0 :: List.replicate 300 0 ++ [8])
  stack := { values := #[1, 2, 3], frames := [⟨0x40, none, [5, 6], 1, 2⟩] }
  streams := { screen := false, tables := [⟨0x20, 2⟩] }

theorem container_roundtrip_sample :
    sample.memory.size = sampleStory.size ∧ sample.Fits sampleStory ∧
      ∃ bytes, encode sample sampleStory = .ok bytes ∧ decode bytes sampleStory = .ok sample ∧
        sample.memory.size = sampleStory.size := by
  have hsize : sample.memory.size = sampleStory.size := by decide +kernel
  have hfits : sample.Fits sampleStory := by decide +kernel
  obtain ⟨hwrite, hread⟩ := container_roundtrip sampleStory
  obtain ⟨bytes, hencode, hdecode⟩ := hwrite sample hsize
  exact ⟨hsize, hfits, bytes, hencode, hdecode hfits, hread bytes sample (hdecode hfits)⟩

end ZMachine.Snapshot
