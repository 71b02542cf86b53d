import Mathlib.Data.List.Induction
import ZMachine.Proofs.Snapshot.Container

/-!
# Sections in any order

A container is a run of sections behind its magic, and what is read from it depends on the payloads
of each known tag only:

    decode (container version reserved ks) story = .ok p
      ↔  there are parts with  sole read (payloads s ks) = some (their slot for s)  for every s
         and  assemble parts = .ok p

`sole read` answers what one payload stands for, and nothing at all if there are several.  So sections
can be written in another order, and sections that are not known can be put in or left out.

The sections are looked into while they are read, all but the header section, which waits until the
end; to whether and what is read this makes no difference, only to which defect is told.
-/

namespace ZMachine.Snapshot

/-! ## Framing -/

/-- A section as it stands in a container, known or not. -/
structure Chunk where
  tag : List UInt8
  payload : List UInt8
  length_tag : tag.length = 4
  length_payload : payload.length < 2 ^ 32

/-- The bytes of a section. -/
def Chunk.bytes (k : Chunk) : List UInt8 :=
  k.tag ++ doubleWordBytes (.ofNat k.payload.length) ++ k.payload

/-- Whether the tag of a section is one that is read. -/
def Chunk.isKnown (k : Chunk) : Bool :=
  (sectionOf? k.tag).isSome

/-- The container with these sections. -/
def container (version reserved : UInt16) (ks : List Chunk) : List UInt8 :=
  magic ++ wordBytes version ++ wordBytes reserved ++ ks.flatMap Chunk.bytes

/-- The payloads of the sections with a known tag. -/
def payloads (s : Section) (ks : List Chunk) : List (List UInt8) :=
  (ks.filter fun k => k.tag == tagBytes s).map Chunk.payload

/-- The parts with one more section; a section that is not known is passed over. -/
def Parts.addChunk (story : Memory) (parts : Parts) (k : Chunk) : Except SaveFault Parts :=
  match sectionOf? k.tag with
  | some s => parts.add story s k.payload
  | none => return parts

/-- A run of sections is read one after the other, and then what follows. -/
theorem readSections_chunks (story : Memory) (fuel : Nat) (rest : List UInt8) (ks : List Chunk) :
    ∀ parts : Parts,
      readSections story (ks.length + fuel) parts (ks.flatMap Chunk.bytes ++ rest) = (do
        readSections story fuel (← ks.foldlM (Parts.addChunk story) parts) rest) := by
  induction ks with
  | nil =>
    intro parts
    rw [List.length_nil, Nat.zero_add]
    rfl
  | cons k ks ih =>
    intro parts
    have hbytes : (k :: ks).flatMap Chunk.bytes ++ rest =
        k.bytes ++ (ks.flatMap Chunk.bytes ++ rest) := by
      rw [List.flatMap_cons, List.append_assoc]
    have hfuel : (k :: ks).length + fuel = ks.length + fuel + 1 := by
      rw [List.length_cons]
      omega
    have hfirst := readSections_framed story (ks.length + fuel) parts k.length_tag k.length_payload
      (ks.flatMap Chunk.bytes ++ rest)
    rw [hbytes, hfuel, Chunk.bytes, hfirst, List.foldlM_cons, Parts.addChunk]
    cases sectionOf? k.tag with
    | none => exact ih parts
    | some s =>
      dsimp only
      cases parts.add story s k.payload with
      | error e => rfl
      | ok next => exact ih next

theorem length_le_bytes (ks : List Chunk) : ks.length ≤ (ks.flatMap Chunk.bytes).length := by
  induction ks with
  | nil => exact Nat.le_refl 0
  | cons k ks ih =>
    have hpos : 0 < k.bytes.length := by
      unfold Chunk.bytes
      rw [List.length_append, List.length_append, k.length_tag]
      omega
    rw [List.flatMap_cons, List.length_append, List.length_cons]
    omega

/-- A container is read section by section. -/
theorem decode_container_append {version : UInt16} (hversion : version ≤ formatVersion)
    (reserved : UInt16) (ks : List Chunk) (rest : List UInt8) (story : Memory) :
    ∃ fuel, decode (container version reserved ks ++ rest) story = (do
      let parts ← ks.foldlM (Parts.addChunk story) {}
      assemble (← readSections story fuel parts rest)) := by
  have hlength := length_le_bytes ks
  refine ⟨8 + (ks.flatMap Chunk.bytes).length - ks.length + rest.length, ?_⟩
  have hfuel : (container version reserved ks ++ rest).length =
      ks.length + (8 + (ks.flatMap Chunk.bytes).length - ks.length + rest.length) := by
    unfold container magic
    simp only [List.length_append, List.length_cons, List.length_nil, length_wordBytes]
    omega
  have hshape : container version reserved ks ++ rest =
      0x5A :: 0x56 :: 0x4D :: 0x53 :: highByte version :: lowByte version :: highByte reserved ::
        lowByte reserved :: (ks.flatMap Chunk.bytes ++ rest) := by
    unfold container magic wordBytes
    simp only [List.cons_append, List.nil_append]
  rw [hshape] at hfuel ⊢
  unfold decode
  dsimp only
  rw [if_neg (by decide), word_wordBytes, if_neg (UInt16.not_lt.2 hversion), hfuel,
    readSections_chunks]
  cases ks.foldlM (Parts.addChunk story) {} <;> rfl

theorem decode_container {version : UInt16} (hversion : version ≤ formatVersion)
    (reserved : UInt16) (ks : List Chunk) (story : Memory) :
    decode (container version reserved ks) story =
      (do assemble (← ks.foldlM (Parts.addChunk story) {})) := by
  obtain ⟨fuel, hdecode⟩ := decode_container_append hversion reserved ks [] story
  rw [List.append_nil] at hdecode
  rw [hdecode]
  have hdone (parts : Parts) : readSections story fuel parts [] = .ok parts := by
    unfold readSections
    rfl
  simp only [hdone]
  rfl

/-! ## What a section comes to -/

theorem sectionOf?_eq_some_iff {tag : List UInt8} {s : Section} :
    sectionOf? tag = some s ↔ tag = tagBytes s := by
  constructor
  · intro h
    unfold sectionOf? at h
    have htag := List.find?_some h
    exact (beq_iff_eq.1 htag).symm
  · rintro rfl
    exact sectionOf?_tagBytes s

/-- What the payloads of a section come to: nothing without one, and there must not be two. -/
def sole {α : Type} (read : List UInt8 → Option α) : List (List UInt8) → Option (Option α)
  | [] => some none
  | [payload] => (read payload).map some
  | _ => none

theorem sole_concat_eq_some {α : Type} {read : List UInt8 → Option α} {ps : List (List UInt8)}
    {payload : List UInt8} {o : Option α} :
    sole read (ps ++ [payload]) = some o ↔
      ps = [] ∧ ∃ a, read payload = some a ∧ o = some a := by
  match ps with
  | [] =>
    simp only [List.nil_append, sole, Option.map_eq_some_iff, true_and]
    grind
  | [p] => simp [sole]
  | p :: q :: ps => simp [sole]

theorem sole_eq_some_none {α : Type} {read : List UInt8 → Option α} {ps : List (List UInt8)} :
    sole read ps = some none ↔ ps = [] := by
  match ps with
  | [] => simp [sole]
  | [p] => simp [sole]
  | p :: q :: ps => simp [sole]

/-- Slots that hold what the same payloads come to are the same. -/
theorem slot_eq {α : Type} {read : List UInt8 → Option α} {ps qs : List (List UInt8)}
    {slot slot' : Option α} (h : sole read ps = some slot) (h' : sole read qs = some slot')
    (hsame : ps = qs) : slot = slot' := by
  rw [hsame] at h
  exact Option.some.inj (h.symm.trans h')

/-- It does not matter in which order the payloads stand: if there are several, nothing comes of
them. -/
theorem sole_perm {α : Type} (read : List UInt8 → Option α) {ps qs : List (List UInt8)}
    (h : ps.Perm qs) : sole read ps = sole read qs := by
  match ps, h.length_eq with
  | [], _ => rw [h.nil_eq]
  | [p], _ => rw [h.singleton_eq]
  | p :: q :: ps, hlength =>
    match qs, hlength with
    | _ :: _ :: _, _ => rfl

/-- The slot of a section holds what these payloads come to. -/
def Parts.Holds (story : Memory) (parts : Parts) : Section → List (List UInt8) → Prop
  | .header, ps => sole some ps = some parts.header
  | .memory, ps => sole (fun p => (expand p story).toOption) ps = some parts.memory
  | .stack, ps => sole (fun p => (Json.parse p).bind Stack.ofJson?) ps = some parts.stack
  | .streams, ps =>
    sole (fun p => (Json.parse p).bind OutputStreams.ofJson?) ps = some parts.streams

/-- Parts with the same slots, except for a section. -/
structure Parts.SameBut (s : Section) (parts parts' : Parts) : Prop where
  header : s ≠ .header → parts'.header = parts.header
  memory : s ≠ .memory → parts'.memory = parts.memory
  stack : s ≠ .stack → parts'.stack = parts.stack
  streams : s ≠ .streams → parts'.streams = parts.streams

/-- The parts with the slot of a section empty. -/
def Parts.without (s : Section) (parts : Parts) : Parts :=
  match s with
  | .header => { parts with header := none }
  | .memory => { parts with memory := none }
  | .stack => { parts with stack := none }
  | .streams => { parts with streams := none }

section
variable {story : Memory} {s t : Section} {parts parts' : Parts}

theorem Parts.SameBut.holds_iff (h : SameBut s parts parts') (ht : s ≠ t)
    {ps : List (List UInt8)} : parts'.Holds story t ps ↔ parts.Holds story t ps := by
  unfold Holds
  cases t with
  | header => rw [h.header ht]
  | memory => rw [h.memory ht]
  | stack => rw [h.stack ht]
  | streams => rw [h.streams ht]

theorem Parts.without_sameBut (s : Section) (parts : Parts) : SameBut s (parts.without s) parts := by
  cases s <;> constructor <;> intro h <;> first | rfl | exact absurd rfl h

theorem Parts.without_holds (s : Section) (parts : Parts) : (parts.without s).Holds story s [] := by
  cases s <;> rfl

theorem Parts.sameBut_iff : SameBut s parts parts' ↔
    (s ≠ .header → parts'.header = parts.header) ∧ (s ≠ .memory → parts'.memory = parts.memory) ∧
      (s ≠ .stack → parts'.stack = parts.stack) ∧
      (s ≠ .streams → parts'.streams = parts.streams) :=
  ⟨fun h => ⟨h.header, h.memory, h.stack, h.streams⟩, fun h => ⟨h.1, h.2.1, h.2.2.1, h.2.2.2⟩⟩

/-- A slot that must be empty is filled with what is read. -/
theorem fill_eq_ok_iff {α : Type} (read : List UInt8 → Option α) (slot : Parts → Option α)
    {payload : List UInt8} {x : Except SaveFault α} (hx : x.toOption = read payload) {put : α → Parts}
    (hput : ∀ a, put a = parts' ↔ Parts.SameBut s parts parts' ∧ slot parts' = some a)
    {e : SaveFault} :
    (do
      if (slot parts).isSome then throw e
      return put (← x)) = Except.ok parts' ↔
    sole read [] = some (slot parts) ∧ sole read [payload] = some (slot parts') ∧
      Parts.SameBut s parts parts' := by
  have hread : sole read [payload] = x.toOption.map some := by rw [hx]; rfl
  have hnone : sole read [] = some none := rfl
  rw [hread, hnone]
  cases slot parts with
  | some a => exact ⟨fun h => (by cases h), fun h => (by cases h.1)⟩
  | none =>
    cases x with
    | error e => exact ⟨fun h => (by cases h), fun h => (by cases h.2.1)⟩
    | ok a =>
      have hdone : (Except.ok (put a) : Except SaveFault Parts) = .ok parts' ↔ put a = parts' :=
        ⟨Except.ok.inj, congrArg Except.ok⟩
      refine hdone.trans ((hput a).trans ⟨fun h => ⟨rfl, congrArg some h.2.symm, h.1⟩, fun h => ?_⟩)
      exact ⟨h.2.2, (Option.some.inj h.2.1).symm⟩

theorem toOption_orFail {α : Type} (e : SaveFault) (o : Option α) : (orFail e o).toOption = o := by
  cases o <;> rfl

/-- A section is taken in if its slot is empty, and fills it. -/
theorem Parts.add_eq_ok_iff {payload : List UInt8} :
    parts.add story s payload = .ok parts' ↔
      parts.Holds story s [] ∧ parts'.Holds story s [payload] ∧ SameBut s parts parts' := by
  cases s with
  | header =>
    have hput (a : List UInt8) : { parts with header := some a } = parts' ↔
        SameBut .header parts parts' ∧ parts'.header = some a := by
      grind [sameBut_iff, cases Parts]
    have hread : (Except.ok payload : Except SaveFault (List UInt8)).toOption = some payload := rfl
    exact fill_eq_ok_iff some Parts.header hread hput
  | memory =>
    have hput (m : Memory) : { parts with memory := some m } = parts' ↔
        SameBut .memory parts parts' ∧ parts'.memory = some m := by
      grind [sameBut_iff, cases Parts]
    exact fill_eq_ok_iff (fun p => (expand p story).toOption) Parts.memory rfl hput
  | stack =>
    have hput (t : Stack) : { parts with stack := some t } = parts' ↔
        SameBut .stack parts parts' ∧ parts'.stack = some t := by
      grind [sameBut_iff, cases Parts]
    have hread := toOption_orFail (.unreadable .stack) ((Json.parse payload).bind Stack.ofJson?)
    exact fill_eq_ok_iff (fun p => (Json.parse p).bind Stack.ofJson?) Parts.stack hread hput
  | streams =>
    have hput (o : OutputStreams) : { parts with streams := some o } = parts' ↔
        SameBut .streams parts parts' ∧ parts'.streams = some o := by
      grind [sameBut_iff, cases Parts]
    have hread :=
      toOption_orFail (.unreadable .streams) ((Json.parse payload).bind OutputStreams.ofJson?)
    exact fill_eq_ok_iff (fun p => (Json.parse p).bind OutputStreams.ofJson?) Parts.streams hread hput

end

/-! ## All sections -/

section
variable {story : Memory} {s : Section}

theorem payloads_concat_of_ne {k : Chunk} (h : k.tag ≠ tagBytes s) (ks : List Chunk) :
    payloads s (ks ++ [k]) = payloads s ks := by
  unfold payloads
  rw [List.filter_append, List.filter_cons_of_neg (by simpa using h), List.filter_nil,
    List.append_nil]

theorem payloads_concat {k : Chunk} (h : k.tag = tagBytes s) (ks : List Chunk) :
    payloads s (ks ++ [k]) = payloads s ks ++ [k.payload] := by
  unfold payloads
  rw [List.filter_append, List.filter_cons_of_pos (by simpa using h), List.filter_nil,
    List.map_append]
  rfl

theorem Parts.eq_nil_of_holds {parts : Parts} {ps : List (List UInt8)}
    (hempty : parts.Holds story s []) (h : parts.Holds story s ps) : ps = [] := by
  cases s <;> exact sole_eq_some_none.1 (h.trans hempty.symm)

theorem Parts.eq_nil_of_holds_concat {parts : Parts} {ps : List (List UInt8)} {payload : List UInt8}
    (h : parts.Holds story s (ps ++ [payload])) : ps = [] := by
  cases s <;> exact (sole_concat_eq_some.1 h).1

/-- Sections are taken in one after the other just if each slot comes to hold what the payloads for it
come to. -/
theorem foldlM_addChunk_eq_ok_iff (ks : List Chunk) :
    ∀ parts : Parts, ks.foldlM (Parts.addChunk story) {} = .ok parts ↔
      ∀ s, parts.Holds story s (payloads s ks) := by
  induction ks using List.reverseRecOn with
  | nil =>
    intro parts
    constructor
    · intro h s
      cases h
      cases s <;> rfl
    · intro h
      obtain ⟨header, memory, stack, streams⟩ := parts
      cases Option.some.inj (h .header)
      cases Option.some.inj (h .memory)
      cases Option.some.inj (h .stack)
      cases Option.some.inj (h .streams)
      rfl
  | append_singleton ks k ih =>
    intro parts'
    have hne {t : Section} (ht : sectionOf? k.tag ≠ some t) : k.tag ≠ tagBytes t :=
      fun htag => ht (sectionOf?_eq_some_iff.2 htag)
    rw [List.foldlM_append]
    simp only [List.foldlM_cons, List.foldlM_nil, bind_pure]
    cases htag : sectionOf? k.tag with
    | none =>
      have hskip (parts : Parts) : parts.addChunk story k = .ok parts := by
        unfold Parts.addChunk
        rw [htag]
        rfl
      have hsame (s : Section) : payloads s (ks ++ [k]) = payloads s ks :=
        payloads_concat_of_ne (hne (by simp [htag])) ks
      simp only [hskip, hsame, ← ih parts']
      cases ks.foldlM (Parts.addChunk story) {} <;> rfl
    | some s =>
      have hadd (parts : Parts) : parts.addChunk story k = parts.add story s k.payload := by
        unfold Parts.addChunk
        rw [htag]
      have hother {t : Section} (ht : s ≠ t) : payloads t (ks ++ [k]) = payloads t ks :=
        payloads_concat_of_ne (hne (by simpa [htag] using ht)) ks
      have hown := payloads_concat (sectionOf?_eq_some_iff.1 htag) ks
      simp only [hadd]
      constructor
      · intro h t
        obtain ⟨parts, hparts, hnext⟩ := except_bind_eq_ok h
        have hheld := (ih parts).1 hparts
        obtain ⟨hempty, hfilled, hsame⟩ := Parts.add_eq_ok_iff.1 hnext
        by_cases ht : s = t
        · subst ht
          rw [hown, Parts.eq_nil_of_holds hempty (hheld s)]
          exact hfilled
        · rw [hother ht]
          exact (hsame.holds_iff ht).2 (hheld t)
      -- the parts before the last section are those after it with its slot emptied
      · intro h
        have hsame := Parts.without_sameBut s parts'
        have hnil : payloads s ks = [] := Parts.eq_nil_of_holds_concat (hown ▸ h s)
        have hbefore : ks.foldlM (Parts.addChunk story) {} = .ok (parts'.without s) := by
          refine (ih _).2 (fun t => ?_)
          by_cases ht : s = t
          · subst ht
            rw [hnil]
            exact Parts.without_holds s parts'
          · rw [← hsame.holds_iff ht, ← hother ht]
            exact h t
        have hfilled : parts'.Holds story s [k.payload] := by
          have hs := h s
          rwa [hown, hnil] at hs
        rw [hbefore]
        exact Parts.add_eq_ok_iff.2 ⟨Parts.without_holds s parts', hfilled, hsame⟩

/-- What is read from a container. -/
theorem decode_container_eq_ok_iff {version : UInt16} (hversion : version ≤ formatVersion)
    (reserved : UInt16) (ks : List Chunk) (p : Snapshot) :
    decode (container version reserved ks) story = .ok p ↔
      ∃ parts : Parts, (∀ s, parts.Holds story s (payloads s ks)) ∧ assemble parts = .ok p := by
  rw [decode_container hversion]
  constructor
  · intro h
    obtain ⟨parts, hparts, hassemble⟩ := except_bind_eq_ok h
    exact ⟨parts, (foldlM_addChunk_eq_ok_iff ks parts).1 hparts, hassemble⟩
  · rintro ⟨parts, hheld, hassemble⟩
    rw [(foldlM_addChunk_eq_ok_iff ks parts).2 hheld]
    exact hassemble

/-! ## The snapshot -/

theorem Parts.holds_perm {parts : Parts} {ps qs : List (List UInt8)} (h : ps.Perm qs) :
    parts.Holds story s ps ↔ parts.Holds story s qs := by
  cases s <;> (unfold Holds; dsimp only; rw [sole_perm _ h])

theorem tag_isKnown {k : Chunk} (h : k.tag = tagBytes s) : k.isKnown = true := by
  unfold Chunk.isKnown
  rw [h, sectionOf?_tagBytes]
  rfl

/-- Sections that are not known have no part in the payloads. -/
theorem payloads_known (s : Section) (ks : List Chunk) :
    payloads s (ks.filter Chunk.isKnown) = payloads s ks := by
  unfold payloads
  rw [List.filter_filter]
  congr 1
  refine List.filter_congr (fun k _ => ?_)
  cases htag : k.tag == tagBytes s with
  | false => rfl
  | true => rw [Bool.true_and, tag_isKnown (beq_iff_eq.1 htag)]

theorem assemble_eq_ok {parts : Parts} {p : Snapshot} (h : assemble parts = .ok p) :
    (∃ header, parts.header = some header) ∧ parts.memory = some p.memory ∧
      parts.stack = some p.stack ∧ p.streams = parts.streams.getD {} := by
  unfold assemble at h
  obtain ⟨header, hheader, h⟩ := except_bind_eq_ok h
  split at h
  · obtain ⟨memory, hmemory, h⟩ := except_bind_eq_ok h
    obtain ⟨stack, hstack, h⟩ := except_bind_eq_ok h
    cases h
    exact ⟨⟨_, orFail_eq_ok hheader⟩, orFail_eq_ok hmemory, orFail_eq_ok hstack, rfl⟩
  · cases h

/-- What the header section tells does not come from anywhere else. -/
theorem assemble_header {parts parts' : Parts} {p p' : Snapshot} (h : assemble parts = .ok p)
    (h' : assemble parts' = .ok p') (hheader : parts.header = parts'.header) :
    (p.release, p.serial, p.checksum, p.pc, p.storer) =
      (p'.release, p'.serial, p'.checksum, p'.pc, p'.storer) := by
  unfold assemble at h h'
  rw [hheader] at h
  obtain ⟨header, hslot, h⟩ := except_bind_eq_ok h
  rw [hslot] at h'
  obtain ⟨_, hsame, h'⟩ := except_bind_eq_ok h'
  cases hsame
  split at h
  · obtain ⟨memory, -, h⟩ := except_bind_eq_ok h
    obtain ⟨stack, -, h⟩ := except_bind_eq_ok h
    obtain ⟨memory', -, h'⟩ := except_bind_eq_ok h'
    obtain ⟨stack', -, h'⟩ := except_bind_eq_ok h'
    cases h
    cases h'
    rfl
  · cases h

/-- A section that must be there is there once. -/
theorem length_payloads_of_decode {version reserved : UInt16} {ks : List Chunk} {p : Snapshot}
    (hversion : version ≤ formatVersion)
    (h : decode (container version reserved ks) story = .ok p) (s : Section) :
    (payloads s ks).length ≤ 1 ∧ (payloads s ks = [] → s = .streams) := by
  obtain ⟨parts, hheld, hassemble⟩ := (decode_container_eq_ok_iff hversion reserved ks p).1 h
  obtain ⟨⟨header, hheader⟩, hmemory, hstack, -⟩ := assemble_eq_ok hassemble
  have hs := hheld s
  constructor
  · match hpayloads : payloads s ks with
    | [] => exact Nat.zero_le 1
    | [payload] => exact Nat.le_refl 1
    | _ :: _ :: _ =>
      rw [hpayloads] at hs
      cases s <;> cases hs
  · intro hempty
    rw [hempty] at hs
    cases s with
    | header => cases hheader.symm.trans (Option.some.inj hs).symm
    | memory => cases hmemory.symm.trans (Option.some.inj hs).symm
    | stack => cases hstack.symm.trans (Option.some.inj hs).symm
    | streams => rfl

end

/-- A container is its known sections, in whatever order they stand and whatever other sections stand
between them.  It is refused if one of them stands there twice or if one is missing, only the output
streams may be; and if it is read, each part of the snapshot comes from the payload of its own section
alone, only the memory from the story as well. -/
theorem container_order_free {version version' : UInt16} (hversion : version ≤ formatVersion)
    (hversion' : version' ≤ formatVersion) (reserved reserved' : UInt16) (ks ks' : List Chunk)
    (story : Memory) :
    ((ks.filter Chunk.isKnown).Perm (ks'.filter Chunk.isKnown) →
      ∀ p, decode (container version reserved ks) story = .ok p ↔
        decode (container version' reserved' ks') story = .ok p) ∧
    (∀ s, 2 ≤ (payloads s ks).length ∨ payloads s ks = [] ∧ s ≠ .streams →
      ∃ e, decode (container version reserved ks) story = .error e) ∧
    ∀ (story' : Memory) (p p' : Snapshot), decode (container version reserved ks) story = .ok p →
      decode (container version' reserved' ks') story' = .ok p' →
      (payloads .header ks = payloads .header ks' →
        (p.release, p.serial, p.checksum, p.pc, p.storer) =
          (p'.release, p'.serial, p'.checksum, p'.pc, p'.storer)) ∧
      (payloads .memory ks = payloads .memory ks' → story = story' → p.memory = p'.memory) ∧
      (payloads .stack ks = payloads .stack ks' → p.stack = p'.stack) ∧
      (payloads .streams ks = payloads .streams ks' → p.streams = p'.streams) := by
  refine ⟨fun hperm p => ?_, fun s hs => ?_, fun story' p p' h h' => ?_⟩
  · have hsame (s : Section) : (payloads s ks).Perm (payloads s ks') := by
      rw [← payloads_known s ks, ← payloads_known s ks']
      exact (hperm.filter _).map _
    rw [decode_container_eq_ok_iff hversion, decode_container_eq_ok_iff hversion']
    have hheld (parts : Parts) : (∀ s, parts.Holds story s (payloads s ks)) ↔
        ∀ s, parts.Holds story s (payloads s ks') :=
      forall_congr' (fun s => Parts.holds_perm (hsame s))
    simp only [hheld]
  · cases hdecode : decode (container version reserved ks) story with
    | error e => exact ⟨e, rfl⟩
    | ok p =>
      obtain ⟨hone, hmissing⟩ := length_payloads_of_decode hversion hdecode s
      obtain htwo | ⟨hempty, hneeded⟩ := hs
      · omega
      · exact absurd (hmissing hempty) hneeded
  · obtain ⟨parts, hheld, hassemble⟩ := (decode_container_eq_ok_iff hversion reserved ks p).1 h
    obtain ⟨parts', hheld', hassemble'⟩ :=
      (decode_container_eq_ok_iff hversion' reserved' ks' p').1 h'
    obtain ⟨-, hmemory, hstack, hstreams⟩ := assemble_eq_ok hassemble
    obtain ⟨-, hmemory', hstack', hstreams'⟩ := assemble_eq_ok hassemble'
    refine ⟨fun hsame => ?_, fun hsame hstory => ?_, fun hsame => ?_, fun hsame => ?_⟩
    · exact assemble_header hassemble hassemble' (slot_eq (hheld .header) (hheld' .header) hsame)
    · subst hstory
      have hslot : parts.memory = parts'.memory := slot_eq (hheld .memory) (hheld' .memory) hsame
      exact Option.some.inj (hmemory.symm.trans (hslot.trans hmemory'))
    · have hslot : parts.stack = parts'.stack := slot_eq (hheld .stack) (hheld' .stack) hsame
      exact Option.some.inj (hstack.symm.trans (hslot.trans hstack'))
    · have hslot : parts.streams = parts'.streams :=
        slot_eq (hheld .streams) (hheld' .streams) hsame
      rw [hstreams, hstreams', hslot]

/-! ## The sections of a snapshot -/

/-- A section with a known tag. -/
def Chunk.known (s : Section) (payload : List UInt8) (h : payload.length < 2 ^ 32) : Chunk where
  tag := tagBytes s
  payload := payload
  length_tag := by cases s <;> rfl
  length_payload := h

/-- The sections that are written for a snapshot, in their order. -/
def chunks (p : Snapshot) (story : Memory) (h : p.Fits story) : List Chunk :=
  [.known .header p.headerPayload (by rw [length_headerPayload]; decide),
    .known .memory (compress p.memory story) h.memory,
    .known .stack p.stack.toJson.compactBytes h.stack,
    .known .streams p.streams.toJson.compactBytes h.streams]

theorem encode_eq_container {p : Snapshot} {story : Memory} (hsize : p.memory.size = story.size)
    (h : p.Fits story) : encode p story = .ok (container formatVersion 0 (p.chunks story h)) := by
  rw [encode_eq_ok p story hsize]
  unfold container chunks Chunk.bytes Chunk.known sectionBytes
  simp only [List.flatMap_cons, List.flatMap_nil, List.append_nil, List.append_assoc]

theorem decode_chunks {p : Snapshot} {story : Memory} (hsize : p.memory.size = story.size)
    (h : p.Fits story) : decode (container formatVersion 0 (p.chunks story h)) story = .ok p := by
  obtain ⟨bytes, hencode, hdecode⟩ := decode_encode p story hsize h
  rw [encode_eq_container hsize h] at hencode
  cases hencode
  exact hdecode

/-- A section with the tag `NOTE`. -/
def noteChunk : Chunk where
  tag := [0x4E, 0x4F, 0x54, 0x45]
  payload := [1, 2, 3]
  length_tag := rfl
  length_payload := by decide

theorem container_order_free_sample :
    ∃ h : sample.Fits sampleStory,
      decode (container 0 7 ((sample.chunks sampleStory h).reverse ++ [noteChunk])) sampleStory =
        .ok sample := by
  have hsize : sample.memory.size = sampleStory.size := by decide +kernel
  have hfits : sample.Fits sampleStory := by decide +kernel
  have hperm : ((sample.chunks sampleStory hfits).filter Chunk.isKnown).Perm
      (((sample.chunks sampleStory hfits).reverse ++ [noteChunk]).filter Chunk.isKnown) := by
    have hnote : noteChunk.isKnown = false := by decide
    rw [List.filter_append, List.filter_cons_of_neg (by rw [hnote]; decide), List.filter_nil,
      List.append_nil]
    exact (List.reverse_perm _).symm.filter _
  have hsame := (container_order_free (by decide : formatVersion ≤ formatVersion)
    (by decide : (0 : UInt16) ≤ formatVersion) 0 7 _ _ sampleStory).1 hperm sample
  exact ⟨hfits, hsame.1 (decode_chunks hsize hfits)⟩

end ZMachine.Snapshot
