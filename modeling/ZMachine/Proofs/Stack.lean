import ZMachine.Proofs.Action
import ZMachine.Stack

/-!
# The discipline of the stack

A routine pushes and pops values above its floor and sets its own locals; entering and leaving a
routine adds and drops a frame.  A stack is disciplined if its sizes are within their limits and the
bases of its frames go up from the outermost routine to the top of the values:

    0 ≤ base of the outermost frame ≤ ... ≤ base of the running frame ≤ number of values

Every operation preserves this.  A pop stops at the base of the running frame, so no base is ever
above the values; leaving a routine cuts the values at its base, which is not below its caller's.
-/

namespace ZMachine.Stack

/-- How a routine changes the values and its locals. -/
inductive Change : Stack → Stack → Prop
  | push {s : Stack} (value : UInt16) (h : s.values.size < maxValues) :
      Change s { s with values := s.values.push value }
  | pop {s : Stack} (h : s.floor < s.values.size) : Change s { s with values := s.values.pop }
  | replaceTop {s : Stack} (value : UInt16) (h : s.floor < s.values.size) :
      Change s { s with values := s.values.setIfInBounds (s.values.size - 1) value }
  | setLocal {s : Stack} {f : Frame} {rest : List Frame} (index : Nat) (value : UInt16)
      (h : s.frames = f :: rest) :
      Change s { s with frames := { f with locals := f.locals.set index value } :: rest }

theorem push_makes (value : UInt16) : Makes Change (push value) := by
  intro s
  unfold push
  split
  · next h => exact .single (.push value h)
  · exact .refl

theorem peek_makes : Makes Change peek := by
  intro s
  unfold peek
  split
  · exact .refl
  · cases s.values.back? <;> exact .refl

theorem pop_makes : Makes Change pop := by
  intro s
  unfold pop
  split
  · exact .refl
  · next h =>
    cases s.values.back? with
    | none => exact .refl
    | some v => exact .single (.pop (by omega))

theorem replaceTop_makes (value : UInt16) : Makes Change (replaceTop value) := by
  intro s
  unfold replaceTop
  split
  · exact .refl
  · next h => exact .single (.replaceTop value (by omega))

theorem getLocal_makes (index : UInt8) : Makes Change (getLocal index) := by
  intro s
  unfold getLocal
  cases s.frames with
  | nil => exact .refl
  | cons f rest =>
    dsimp only
    cases f.locals[index.toNat]? <;> exact .refl

theorem setLocal_makes (index : UInt8) (value : UInt16) : Makes Change (setLocal index value) := by
  intro s
  unfold setLocal
  cases hframes : s.frames with
  | nil => exact .refl
  | cons f rest =>
    dsimp only
    split
    · exact .single (.setLocal index.toNat value hframes)
    · exact .refl

/-- A routine is left: what it left on the stack is dropped, down to its base. -/
inductive Leave : Stack → Stack → Prop
  | frame {s : Stack} {f : Frame} {rest : List Frame} (h : s.frames = f :: rest) :
      Leave s { values := s.values.shrink f.stackBase, frames := rest }

theorem popFrame_makes : Makes Leave popFrame := by
  intro s
  unfold popFrame
  cases hframes : s.frames with
  | nil => exact .refl
  | cons f rest => exact .single (.frame hframes)

theorem popFrames_makes (count : Nat) : Makes Leave (popFrames count) := by
  induction count with
  | zero => exact leads_pure ()
  | succ count ih => exact leads_bind popFrame_makes (fun _ => ih)

/-! ## The discipline -/

/-- The bases of frames, the running one first, go down from `top`. -/
def Descend : (top : Nat) → List Frame → Prop
  | _, [] => True
  | top, f :: rest => f.stackBase ≤ top ∧ Descend f.stackBase rest

instance decidableDescend : (top : Nat) → (frames : List Frame) → Decidable (Descend top frames)
  | _, [] => inferInstanceAs (Decidable True)
  | top, f :: rest =>
    have := decidableDescend f.stackBase rest
    inferInstanceAs (Decidable (f.stackBase ≤ top ∧ Descend f.stackBase rest))

/-- Sizes are within their limits, and the bases of the frames go up to the top of the values. -/
structure Disciplined (s : Stack) : Prop where
  values : s.values.size ≤ maxValues
  frames : s.frames.length ≤ maxFrames
  locals : ∀ f ∈ s.frames, f.locals.length ≤ maxLocals
  bases : Descend s.values.size s.frames

instance (s : Stack) : Decidable s.Disciplined :=
  decidable_of_iff (s.values.size ≤ maxValues ∧ s.frames.length ≤ maxFrames ∧
      (∀ f ∈ s.frames, f.locals.length ≤ maxLocals) ∧ Descend s.values.size s.frames)
    ⟨fun ⟨hvalues, hframes, hlocals, hbases⟩ => ⟨hvalues, hframes, hlocals, hbases⟩,
      fun h => ⟨h.values, h.frames, h.locals, h.bases⟩⟩

theorem disciplined_empty : Disciplined {} where
  values := Nat.zero_le _
  frames := Nat.zero_le _
  locals := fun _ hf => by cases hf
  bases := trivial

variable {s : Stack}

/-- Only the base of the running routine bounds the values. -/
theorem descend_of_floor_le {top top' : Nat} (h : Descend top s.frames) (hfloor : s.floor ≤ top') :
    Descend top' s.frames := by
  unfold floor at hfloor
  cases hframes : s.frames with
  | nil => trivial
  | cons f rest =>
    rw [hframes] at h hfloor
    exact ⟨hfloor, h.2⟩

/-- No frame is based above the top. -/
theorem Descend.base_le {top : Nat} {frames : List Frame} (h : Descend top frames) :
    ∀ f ∈ frames, f.stackBase ≤ top := by
  induction frames generalizing top with
  | nil =>
    intro f hf
    cases hf
  | cons f rest ih =>
    intro g hg
    rcases List.mem_cons.1 hg with rfl | hrest
    · exact h.1
    · exact Nat.le_trans (ih h.2 g hrest) h.1

theorem Disciplined.floor_le (h : s.Disciplined) : s.floor ≤ s.values.size := by
  have hbases := h.bases
  unfold floor
  cases hframes : s.frames with
  | nil => exact Nat.zero_le _
  | cons f rest =>
    rw [hframes] at hbases
    exact hbases.1

/-- Other values, not more than there may be and not fewer than belong to callers. -/
theorem Disciplined.withValues (h : s.Disciplined) {values : Array UInt16}
    (hmax : values.size ≤ maxValues) (hfloor : s.floor ≤ values.size) :
    Disciplined { s with values } where
  values := hmax
  frames := h.frames
  locals := h.locals
  bases := descend_of_floor_le h.bases hfloor

theorem Disciplined.change {s' : Stack} (h : s.Disciplined) (hchange : Change s s') :
    s'.Disciplined := by
  have hfloor := h.floor_le
  have hmax := h.values
  cases hchange with
  | push value hroom =>
    refine h.withValues ?_ ?_ <;> rw [Array.size_push] <;> omega
  | pop habove =>
    refine h.withValues ?_ ?_ <;> rw [Array.size_pop] <;> omega
  | replaceTop value habove =>
    refine h.withValues ?_ ?_ <;> rw [Array.size_setIfInBounds] <;> omega
  | setLocal index value hframes =>
    obtain ⟨-, hlength, hlocals, hbases⟩ := h
    rw [hframes] at hlength hlocals hbases
    refine ⟨hmax, hlength, ?_, hbases⟩
    intro f hf
    rcases List.mem_cons.1 hf with rfl | hrest
    · rw [List.length_set]
      exact hlocals _ List.mem_cons_self
    · exact hlocals f (List.mem_cons_of_mem _ hrest)

/-- A frame that is entered is based on the values that are there. -/
theorem Disciplined.enter (h : s.Disciplined) {f : Frame} (hroom : s.frames.length < maxFrames)
    (hlocals : f.locals.length ≤ maxLocals) (hbase : f.stackBase = s.values.size) :
    Disciplined { s with frames := f :: s.frames } where
  values := h.values
  frames := hroom
  locals := by
    intro g hg
    rcases List.mem_cons.1 hg with rfl | hrest
    · exact hlocals
    · exact h.locals g hrest
  bases := ⟨Nat.le_of_eq hbase, hbase ▸ h.bases⟩

/-- The base of a routine is a height that the values reach. -/
theorem Disciplined.leave {s' : Stack} (h : s.Disciplined) (hleave : Leave s s') :
    s'.Disciplined := by
  obtain ⟨hvalues, hlength, hlocals, hbases⟩ := h
  cases hleave with
  | @frame f rest hframes =>
    rw [hframes] at hlength hlocals hbases
    have hsize : (s.values.shrink f.stackBase).size = f.stackBase := by
      rw [Array.size_shrink]
      exact Nat.min_eq_left hbases.1
    refine ⟨?_, ?_, ?_, ?_⟩
    · show (s.values.shrink f.stackBase).size ≤ maxValues
      have := hbases.1
      omega
    · exact Nat.le_of_succ_le hlength
    · exact fun g hg => hlocals g (List.mem_cons_of_mem _ hg)
    · show Descend (s.values.shrink f.stackBase).size rest
      rw [hsize]
      exact hbases.2

end ZMachine.Stack
