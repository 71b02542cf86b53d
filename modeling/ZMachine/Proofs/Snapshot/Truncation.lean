import ZMachine.Proofs.Snapshot.Limits
import ZMachine.Proofs.Snapshot.Sections

/-!
# Saves that are cut short

A save has no checksum, but each of its sections tells its length, so one that is cut short is noticed
unless the cut is between two sections:

    cut <+: container version reserved ks   →   decode cut story = .error _
                                                or cut = container version reserved (ks.take n)

At such a place it is noticed if a section is missing that must be there.  The streams are the only
section that may be missing, and they are written last: what is left without them is an older save.
-/

namespace ZMachine.Snapshot

/-! ## Cuts in a section -/

theorem nextSection_short {bytes : List UInt8} (h : bytes.length < 8) :
    ∃ e, nextSection bytes = .error e := by
  unfold nextSection
  split
  · next t₀ t₁ t₂ t₃ rest =>
    split
    · simp only [List.length_cons] at h
      omega
    · exact ⟨_, rfl⟩
  · exact ⟨_, rfl⟩

/-- A section that ends too early is refused. -/
theorem nextSection_cut {k : Chunk} {cut : List UInt8} (hcut : cut <+: k.bytes)
    (hne : cut ≠ k.bytes) : ∃ e, nextSection cut = .error e := by
  by_cases hshort : cut.length < 8
  · exact nextSection_short hshort
  have hframe : (k.tag ++ doubleWordBytes (.ofNat k.payload.length)).length = 8 := by
    rw [List.length_append, k.length_tag]
    rfl
  obtain ⟨payload, rfl⟩ : k.tag ++ doubleWordBytes (.ofNat k.payload.length) <+: cut :=
    List.prefix_of_prefix_length_le (List.prefix_append _ _) hcut (by omega)
  obtain ⟨rest, hrest⟩ := (List.prefix_append_right_inj _).1 hcut
  have hlt : payload.length < k.payload.length := by
    rw [← hrest, List.length_append]
    have : rest ≠ [] := by
      rintro rfl
      rw [List.append_nil] at hrest
      exact hne (by rw [hrest]; rfl)
    have := List.length_pos_iff.2 this
    omega
  refine ⟨.overrun, ?_⟩
  rw [nextSection_run k.length_tag, UInt32.toNat_ofNat_of_lt' k.length_payload,
    if_neg (Nat.not_le.2 hlt)]

theorem readSections_cut {k : Chunk} {cut : List UInt8} (hcut : cut <+: k.bytes)
    (hne : cut ≠ k.bytes) (hpos : cut ≠ []) (story : Memory) (fuel : Nat) (parts : Parts) :
    ∃ e, readSections story fuel parts cut = .error e := by
  obtain ⟨b, rest, rfl⟩ := List.exists_cons_of_ne_nil hpos
  cases fuel with
  | zero => exact ⟨_, rfl⟩
  | succ fuel =>
    obtain ⟨e, he⟩ := nextSection_cut hcut hne
    refine ⟨e, ?_⟩
    unfold readSections
    rw [he]
    rfl

/-! ## Cuts in a container -/

/-- A part of a run of pieces ends between two of them, or in the midst of one. -/
theorem prefix_flatMap {α β : Type} {f : α → List β} {as : List α} :
    ∀ {cut : List β}, cut <+: as.flatMap f → ∃ front, cut = front.flatMap f ∧ front <+: as ∨
      ∃ a back q, as = front ++ a :: back ∧ cut = front.flatMap f ++ q ∧ q <+: f a ∧ q ≠ f a ∧
        q ≠ [] := by
  induction as with
  | nil =>
    intro cut hcut
    exact ⟨[], .inl ⟨List.prefix_nil.1 hcut, List.prefix_rfl⟩⟩
  | cons a as ih =>
    intro cut hcut
    rw [List.flatMap_cons] at hcut
    have hfirst : f a <+: f a ++ as.flatMap f := List.prefix_append _ _
    by_cases hlength : (f a).length ≤ cut.length
    · obtain ⟨rest, rfl⟩ := List.prefix_of_prefix_length_le hfirst hcut hlength
      obtain ⟨front, hbetween | ⟨b, back, q, has, hrest, hq⟩⟩ :=
        ih ((List.prefix_append_right_inj _).1 hcut)
      · refine ⟨a :: front, .inl ⟨?_, ?_⟩⟩
        · rw [hbetween.1, List.flatMap_cons]
        · exact List.cons_prefix_cons.2 ⟨rfl, hbetween.2⟩
      · refine ⟨a :: front, .inr ⟨b, back, q, ?_, ?_, hq⟩⟩
        · rw [has, List.cons_append]
        · rw [hrest, List.flatMap_cons, List.append_assoc]
    · have hin : cut <+: f a := List.prefix_of_prefix_length_le hcut hfirst (by omega)
      by_cases hnil : cut = []
      · exact ⟨[], .inl ⟨hnil, List.nil_prefix⟩⟩
      · refine ⟨[], .inr ⟨a, as, cut, rfl, rfl, hin, ?_, hnil⟩⟩
        rintro rfl
        exact hlength (Nat.le_refl _)

theorem decode_short {bytes : List UInt8} (h : bytes.length < 8) (story : Memory) :
    decode bytes story = .error .tooSmall := by
  unfold decode
  split
  · simp only [List.length_cons] at h
    omega
  · rfl

/-- A container that is cut is refused, or the cut is between two sections. -/
theorem decode_cut {version : UInt16} (hversion : version ≤ formatVersion) (reserved : UInt16)
    (ks : List Chunk) (story : Memory) {cut : List UInt8}
    (hcut : cut <+: container version reserved ks) :
    (∃ front, front <+: ks ∧ cut = container version reserved front) ∨
      ∃ e, decode cut story = .error e := by
  by_cases hshort : cut.length < 8
  · exact .inr ⟨_, decode_short hshort story⟩
  have hhead : (magic ++ wordBytes version ++ wordBytes reserved).length = 8 := rfl
  obtain ⟨rest, rfl⟩ : magic ++ wordBytes version ++ wordBytes reserved <+: cut :=
    List.prefix_of_prefix_length_le (List.prefix_append _ _) hcut (by omega)
  obtain ⟨front, ⟨hrest, hfront⟩ | ⟨k, back, q, -, hrest, hq, hne, hpos⟩⟩ :=
    prefix_flatMap ((List.prefix_append_right_inj _).1 hcut)
  · exact .inl ⟨front, hfront, by rw [hrest]; rfl⟩
  · refine .inr ?_
    obtain ⟨fuel, hdecode⟩ := decode_container_append hversion reserved front q story
    have hwhole : magic ++ wordBytes version ++ wordBytes reserved ++ rest =
        container version reserved front ++ q := by
      unfold container
      rw [hrest]
      simp only [List.append_assoc]
    rw [hwhole, hdecode]
    cases front.foldlM (Parts.addChunk story) {} with
    | error e => exact ⟨e, rfl⟩
    | ok parts =>
      obtain ⟨e, he⟩ := readSections_cut hq hne hpos story fuel parts
      refine ⟨e, ?_⟩
      show (readSections story fuel parts q >>= assemble) = _
      rw [he]
      rfl

/-! ## A snapshot without its streams -/

theorem assemble_without_streams {parts : Parts} {p : Snapshot} (h : assemble parts = .ok p) :
    assemble (parts.without .streams) = .ok { p with streams := {} } := by
  unfold assemble at h ⊢
  obtain ⟨header, hheader, h⟩ := except_bind_eq_ok h
  have hkept : orFail (.missing .header) (parts.without .streams).header = .ok header := hheader
  rw [hkept]
  split at h
  · obtain ⟨memory, hmemory, h⟩ := except_bind_eq_ok h
    obtain ⟨stack, hstack, h⟩ := except_bind_eq_ok h
    have hmemory : orFail (.missing .memory) (parts.without .streams).memory = .ok memory := hmemory
    have hstack : orFail (.missing .stack) (parts.without .streams).stack = .ok stack := hstack
    cases h
    show (orFail (.missing .memory) (parts.without .streams).memory >>= _) = _
    rw [hmemory]
    show (orFail (.missing .stack) (parts.without .streams).stack >>= _) = _
    rw [hstack]
    rfl
  · cases h

/-- A container whose last section are the streams is read without it, too. -/
theorem decode_without_streams {version reserved : UInt16} {ks : List Chunk} {k : Chunk}
    {story : Memory} {p : Snapshot} (hversion : version ≤ formatVersion)
    (hk : k.tag = tagBytes .streams)
    (h : decode (container version reserved (ks ++ [k])) story = .ok p) :
    decode (container version reserved ks) story = .ok { p with streams := {} } := by
  obtain ⟨parts, hheld, hassemble⟩ := (decode_container_eq_ok_iff hversion reserved _ p).1 h
  refine (decode_container_eq_ok_iff hversion reserved ks _).2
    ⟨parts.without .streams, fun s => ?_, assemble_without_streams hassemble⟩
  by_cases hs : s = .streams
  · subst hs
    have hlast := hheld .streams
    rw [payloads_concat hk] at hlast
    rw [Parts.eq_nil_of_holds_concat hlast]
    exact Parts.without_holds .streams parts
  · have hother : k.tag ≠ tagBytes s := by
      intro htag
      have hsame := sectionOf?_tagBytes s
      rw [← htag, hk, sectionOf?_tagBytes] at hsame
      exact hs (Option.some.inj hsame).symm
    rw [← (Parts.without_sameBut .streams parts).holds_iff (Ne.symm hs), ← payloads_concat_of_ne hother]
    exact hheld s

section
variable {p : Snapshot} {story : Memory}

/-- What is written before the streams. -/
def withoutStreams (p : Snapshot) (story : Memory) (h : p.Fits story) : List UInt8 :=
  container formatVersion 0 ((p.chunks story h).take 3)

theorem container_chunks (h : p.Fits story) : container formatVersion 0 (p.chunks story h) =
    p.withoutStreams story h ++ sectionBytes .streams p.streams.toJson.compactBytes := by
  have hchunks : p.chunks story h = (p.chunks story h).take 3 ++ [.known .streams _ h.streams] := rfl
  unfold withoutStreams container
  rw [hchunks, List.flatMap_append, List.flatMap_singleton, ← List.append_assoc]
  rfl

theorem decode_withoutStreams (hsize : p.memory.size = story.size) (h : p.Fits story) :
    decode (p.withoutStreams story h) story = .ok { p with streams := {} } := by
  have hchunks : p.chunks story h = (p.chunks story h).take 3 ++ [.known .streams _ h.streams] := rfl
  have hdecode := decode_chunks hsize h
  rw [hchunks] at hdecode
  exact decode_without_streams (UInt16.le_refl _) rfl hdecode

/-- Whatever else a save is cut to lacks a section, or one of its sections ends too early. -/
theorem decode_cut_chunks (h : p.Fits story) {cut : List UInt8}
    (hcut : cut <+: container formatVersion 0 (p.chunks story h))
    (hproper : cut ≠ container formatVersion 0 (p.chunks story h))
    (holder : cut ≠ p.withoutStreams story h) : ∃ e, decode cut story = .error e := by
  have hversion : formatVersion ≤ formatVersion := UInt16.le_refl _
  obtain ⟨front, hfront, rfl⟩ | hrefused := decode_cut hversion 0 _ story hcut
  · have htake := List.prefix_iff_eq_take.1 hfront
    have hmissing : payloads .stack front = [] := by
      match hlength : front.length with
      | 0 | 1 | 2 =>
        rw [htake, hlength]
        rfl
      | 3 =>
        rw [hlength] at htake
        exact absurd (congrArg (container formatVersion 0) htake) holder
      | n + 4 =>
        rw [hlength, List.take_of_length_le (Nat.le_add_left 4 n)] at htake
        exact absurd (congrArg (container formatVersion 0) htake) hproper
    cases hdecode : decode (container formatVersion 0 front) story with
    | error e => exact ⟨e, rfl⟩
    | ok q => cases (length_payloads_of_decode hversion hdecode .stack).2 hmissing
  · exact hrefused

/-- A save that is cut short is refused, wherever it is cut, unless all that is missing are the streams:
then it is a save of the same snapshot with the streams as they are at the start of a story. -/
theorem truncation_detected {p : Snapshot} {story : Memory} (hsize : p.memory.size = story.size)
    (hfits : p.Fits story) :
    ∃ older whole, whole = older ++ sectionBytes .streams p.streams.toJson.compactBytes ∧
      encode p story = .ok whole ∧ decode older story = .ok { p with streams := {} } ∧
      ∀ cut, cut <+: whole → cut ≠ whole → cut ≠ older → ∃ e, decode cut story = .error e :=
  ⟨_, _, container_chunks hfits, encode_eq_container hsize hfits, decode_withoutStreams hsize hfits,
    fun _ => decode_cut_chunks hfits⟩

/-- The save of the sample is refused when its last byte is missing. -/
theorem truncation_detected_sample :
    ∃ older whole, encode sample sampleStory = .ok whole ∧
      decode older sampleStory = .ok { sample with streams := {} } ∧
      whole.dropLast ≠ whole ∧ whole.dropLast ≠ older ∧
      ∃ e, decode whole.dropLast sampleStory = .error e := by
  have hsize : sample.memory.size = sampleStory.size := by decide +kernel
  have hfits : sample.Fits sampleStory := by decide +kernel
  obtain ⟨older, whole, hwhole, hencode, holder, hcut⟩ := truncation_detected hsize hfits
  have hlength : whole.length = older.length + 8 +
      sample.streams.toJson.compactBytes.length := by
    rw [hwhole]
    unfold sectionBytes
    rw [List.length_append, List.length_append, List.length_append]
    have htag : (tagBytes .streams).length = 4 := rfl
    rw [htag]
    show older.length + (4 + 4 + _) = _
    omega
  have hdrop : whole.dropLast.length = whole.length - 1 := List.length_dropLast
  have hproper : whole.dropLast ≠ whole := by
    intro h
    rw [h] at hdrop
    omega
  have hother : whole.dropLast ≠ older := by
    intro h
    rw [h] at hdrop
    omega
  exact ⟨older, whole, hencode, holder, hproper, hother,
    hcut _ (List.dropLast_prefix whole) hproper hother⟩

/-- For a machine within its limits nothing has to be asked of the lengths. -/
theorem truncation_detected_of_limits {s : Machine} (hsize : s.memory.size = s.story.size)
    (hlimits : s.WithinLimits) (target : Option Variable) :
    ∃ older whole, whole = older ++ sectionBytes .streams s.streams.toJson.compactBytes ∧
      encode (capture s target) s.story = .ok whole ∧
      decode older s.story = .ok { capture s target with streams := {} } ∧
      ∀ cut, cut <+: whole → cut ≠ whole → cut ≠ older → ∃ e, decode cut s.story = .error e :=
  have hfits := hlimits.fits target s.story
  ⟨_, _, container_chunks hfits, encode_eq_container hsize hfits, decode_withoutStreams hsize hfits,
    fun _ => decode_cut_chunks hfits⟩

end

end ZMachine.Snapshot
