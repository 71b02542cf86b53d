import ZMachine.Execution.Step
import ZMachine.Proofs.Execution.Setting

/-!
# Actions that settle

The fault `endlessChain` stands for a walk along siblings that does not end: it is never seen, as
nothing is ever answered then.  An action that cannot fail with it ends, completed or with a fault:

    Resolves x      what is asked is answered, or a fault says why not
    Settles x       an action ends, in whatever state it starts
    Endless x s     an action does not end from this state

The first two are proved along the structure, with one lemma for each function.  Only `remove` and
`insert` of an object tree have none, so that all operations settle but the two that use these.
-/

namespace ZMachine

variable {σ α β : Type}

/-- Whether a fault stands for a walk that does not end. -/
def Fault.isEndless : Fault → Bool
  | .endlessChain _ => true
  | _ => false

/-- What is asked is answered, or a fault that can be seen says why not. -/
def Resolves (x : Except Fault α) : Prop :=
  ∀ e, x = .error e → e.isEndless = false

/-- An action ends in whatever state it starts, completed or with a fault that can be seen. -/
def Settles (x : EStateM Fault σ α) : Prop :=
  ∀ s e s', x s = .error e s' → e.isEndless = false

/-- An action does not end from a state. -/
def Endless (x : EStateM Fault σ α) (s : σ) : Prop :=
  ∃ e s', x s = .error e s' ∧ e.isEndless = true

theorem Settles.not_endless {x : EStateM Fault σ α} (h : Settles x) (s : σ) : ¬ Endless x s := by
  rintro ⟨e, s', he, hendless⟩
  rw [h s e s' he] at hendless
  cases hendless

/-! ## Along the structure of an action -/

section
variable {x : Except Fault α} {g : α → Except Fault β}

theorem resolves_pure (a : α) : Resolves (pure a : Except Fault α) := by
  intro e h
  cases h

theorem resolves_throw {e : Fault} (h : e.isEndless = false) :
    Resolves (throw e : Except Fault α) := by
  intro e' he
  cases he
  exact h

/-- A read that leaves the memory is a fault of its own. -/
theorem resolves_read (x : Except OutOfRange α) : Resolves (liftM x : Except Fault α) := by
  intro e h
  cases x with
  | ok a => cases h
  | error r =>
    cases h
    rfl

theorem resolves_bind (hx : Resolves x) (hg : ∀ a, Resolves (g a)) : Resolves (x >>= g) := by
  intro e h
  cases hcase : x with
  | ok a =>
    rw [hcase] at h
    exact hg a e h
  | error e' =>
    rw [hcase] at h
    cases h
    exact hx e hcase

theorem resolves_ite {c : Prop} [Decidable c] {x y : Except Fault α} (hx : Resolves x)
    (hy : Resolves y) : Resolves (if c then x else y) := by
  split
  · exact hx
  · exact hy

/-- What is computed from a byte or a word of the memory. -/
theorem resolves_read_bind (x : Except OutOfRange α) (hg : ∀ a, Resolves (g a)) :
    Resolves ((liftM x : Except Fault α) >>= g) :=
  resolves_bind (resolves_read x) hg

end

section
variable {x : EStateM Fault σ α} {g : α → EStateM Fault σ β}

theorem settles_pure (a : α) : Settles (pure a : EStateM Fault σ α) := by
  intro s e s' h
  cases h

theorem settles_throw {e : Fault} (he : e.isEndless = false) :
    Settles (throw e : EStateM Fault σ α) := by
  intro s e' s' h
  cases h
  exact he

theorem settles_get : Settles (get : EStateM Fault σ σ) := by
  intro s e s' h
  cases h

theorem settles_set (s : σ) : Settles (set s : EStateM Fault σ PUnit) := by
  intro s₀ e s' h
  cases h

theorem settles_modify (f : σ → σ) : Settles (modify f : EStateM Fault σ PUnit) := by
  intro s e s' h
  cases h

theorem settles_bind (hx : Settles x) (hg : ∀ a, Settles (g a)) : Settles (x >>= g) := by
  intro s e s' h
  cases hcase : x s with
  | ok a s₁ =>
    rw [bind_ok hcase] at h
    exact hg a s₁ e s' h
  | error e₁ s₁ =>
    rw [bind_error hcase] at h
    cases h
    exact hx s e s' hcase

theorem settles_ite {c : Prop} [Decidable c] {x y : EStateM Fault σ α} (hx : Settles x)
    (hy : Settles y) : Settles (if c then x else y) := by
  split
  · exact hx
  · exact hy

/-- Refuses to go on under a condition. -/
theorem settles_guard {c : Prop} [Decidable c] {e : Fault} (he : e.isEndless = false)
    {y : EStateM Fault σ β} (hy : Settles y) :
    Settles (if c then (do throw e; y) else y : EStateM Fault σ β) :=
  settles_ite (settles_bind (settles_throw he) (fun _ => hy)) hy

theorem settles_ask {x : Except Fault α} (h : Resolves x) :
    Settles (liftM x : EStateM Fault σ α) := by
  intro s e s' he
  cases x with
  | ok a => cases he
  | error e₁ =>
    cases he
    exact h e rfl

theorem settles_read (x : Except OutOfRange α) : Settles (liftM x : EStateM Fault σ α) := by
  intro s e s' h
  cases x with
  | ok a => cases h
  | error r =>
    cases h
    rfl

theorem settles_filterMapM {g : α → EStateM Fault σ (Option β)} (hg : ∀ a, Settles (g a))
    (as : List α) : Settles (as.filterMapM g) := by
  have hloop : ∀ found, Settles (List.filterMapM.loop g as found) := by
    induction as with
    | nil => exact fun found => settles_pure found.reverse
    | cons a rest ih =>
      intro found
      refine settles_bind (hg a) (fun r => ?_)
      cases r with
      | none => exact ih found
      | some b => exact ih (b :: found)
  exact hloop []

end

/-! ## Where an action does not end -/

section
variable {x : EStateM Fault σ α} {g : α → EStateM Fault σ β} {s : σ}

/-- A sequence does not end just where its first part does not, or its second part after it. -/
theorem endless_bind : Endless (x >>= g) s ↔
    Endless x s ∨ ∃ a s', x s = .ok a s' ∧ Endless (g a) s' := by
  unfold Endless
  cases hcase : x s with
  | ok a s₁ =>
    rw [bind_ok hcase]
    constructor
    · exact fun h => .inr ⟨a, s₁, rfl, h⟩
    · rintro (⟨e, s', h, -⟩ | ⟨a', s', ⟨⟩, h⟩)
      · cases h
      · exact h
  | error e s₁ =>
    rw [bind_error hcase]
    constructor
    · rintro ⟨e', s', ⟨⟩, h⟩
      exact .inl ⟨e, s₁, rfl, h⟩
    · rintro (⟨e', s', ⟨⟩, h⟩ | ⟨a, s', h, -⟩)
      · exact ⟨e, s₁, rfl, h⟩
      · cases h

theorem endless_bind_iff_right (hx : Settles x) :
    Endless (x >>= g) s ↔ ∃ a s', x s = .ok a s' ∧ Endless (g a) s' :=
  endless_bind.trans (or_iff_right (hx.not_endless s))

theorem endless_bind_iff_left (hg : ∀ a, Settles (g a)) : Endless (x >>= g) s ↔ Endless x s :=
  endless_bind.trans (or_iff_left fun ⟨a, s', _, h⟩ => (hg a).not_endless s' h)

/-- What is asked first and answered. -/
theorem endless_ask_bind_iff {x : Except Fault α} (hx : Resolves x) :
    Endless ((liftM x : EStateM Fault σ α) >>= g) s ↔ ∃ a, x = .ok a ∧ Endless (g a) s := by
  rw [endless_bind_iff_right (settles_ask hx)]
  constructor
  · rintro ⟨a, s', h, hendless⟩
    cases x with
    | error e => cases h
    | ok a' =>
      cases h
      exact ⟨a, rfl, hendless⟩
  · rintro ⟨a, rfl, hendless⟩
    exact ⟨a, s, rfl, hendless⟩

/-- A choice of which only the second way may not end. -/
theorem endless_ite_iff {c : Prop} [Decidable c] {x y : EStateM Fault σ α} (hx : Settles x) :
    Endless (if c then x else y) s ↔ ¬ c ∧ Endless y s := by
  split
  · next hc => exact ⟨fun h => absurd h (hx.not_endless s), fun h => absurd hc h.1⟩
  · next hc => exact ⟨fun h => ⟨hc, h⟩, fun h => h.2⟩

end

/-! ## What is asked of a story -/

theorem Header.extensionWord_resolves (h : Header) (m : Memory) (index : Nat) :
    Resolves (h.extensionWord m index) :=
  resolves_ite (resolves_read_bind _ (fun _ => resolves_pure _)) (resolves_pure none)

namespace ExtraChars

theorem readTable_resolves (m : Memory) (address count : Nat) :
    Resolves (readTable m address count) := by
  induction count generalizing address with
  | zero => exact resolves_pure []
  | succ count ih =>
    exact resolves_read_bind _ (fun _ => resolves_bind (ih _) (fun _ => resolves_pure _))

theorem ofStory_resolves (m : Memory) (h : Header) : Resolves (ofStory m h) := by
  unfold ofStory
  refine resolves_bind (h.extensionWord_resolves m _) (fun found => ?_)
  cases found with
  | none => exact resolves_pure standard
  | some table =>
    refine resolves_ite (resolves_pure standard) (resolves_read_bind _ (fun count => ?_))
    exact resolves_bind (readTable_resolves m _ _) (fun _ => resolves_pure _)

end ExtraChars

theorem Alphabet.ofStory_resolves (m : Memory) (h : Header) : Resolves (Alphabet.ofStory m h) :=
  resolves_ite (resolves_pure _) (resolves_read_bind _ (fun _ => resolves_pure _))

namespace ZString

/-- The text of z-characters, if abbreviations have one. -/
theorem expand_resolves (a : Alphabet) (extra : ExtraChars)
    {abbreviation : Nat → Except Fault String} (h : ∀ n, Resolves (abbreviation n)) (row : Nat)
    (out : String) (zs : List Nat) : Resolves (expand a extra abbreviation row out zs) := by
  fun_induction expand a extra abbreviation row out zs with
  | case1 | case5 | case8 => exact resolves_pure _
  | case6 _ _ _ _ _ _ _ _ _ ih => exact resolves_bind (h _) ih
  -- the rest goes on after what was read
  | case2 _ _ _ ih | case3 _ _ _ ih | case4 _ _ _ ih => exact ih
  | case7 | case9 | case10 => assumption

/-- Abbreviations do not nest, so that the text of one ends. -/
theorem abbreviation_resolves (m : Memory) (h : Header) (a : Alphabet) (extra : ExtraChars)
    (number : Nat) : Resolves (abbreviation m h a extra number) := by
  unfold abbreviation
  refine resolves_read_bind _ (fun entry => resolves_read_bind _ (fun found => ?_))
  exact expand_resolves a extra (fun _ => resolves_throw rfl) 0 "" found.1

theorem decode_resolves (m : Memory) (h : Header) (address : Nat) :
    Resolves (decode m h address) := by
  unfold decode
  refine resolves_bind (Alphabet.ofStory_resolves m h) (fun a => ?_)
  refine resolves_bind (ExtraChars.ofStory_resolves m h) (fun extra => ?_)
  refine resolves_read_bind _ (fun found => ?_)
  exact resolves_bind (expand_resolves a extra (abbreviation_resolves m h a extra) 0 "" found.1)
    (fun _ => resolves_pure _)

end ZString

namespace ObjectTable

theorem link_resolves (t : ObjectTable) (l : Link) (m : Memory) (o : UInt16) :
    Resolves (t.link l m o) :=
  resolves_ite (resolves_pure 0) (resolves_read _)

theorem testAttribute_resolves (t : ObjectTable) (m : Memory) (o attr : UInt16) :
    Resolves (t.testAttribute m o attr) :=
  resolves_ite (resolves_pure false) (resolves_read_bind _ (fun _ => resolves_pure _))

theorem propertyAt_resolves (m : Memory) (address : Nat) : Resolves (propertyAt m address) := by
  unfold propertyAt
  refine resolves_read_bind _ (fun b => resolves_ite (resolves_pure none) ?_)
  exact resolves_ite (resolves_read_bind _ (fun _ => resolves_pure _)) (resolves_pure _)

theorem propertyTable_resolves (t : ObjectTable) (m : Memory) (o : UInt16) :
    Resolves (t.propertyTable m o) :=
  resolves_read_bind _ (fun _ => resolves_pure _)

theorem shortName_resolves (t : ObjectTable) (m : Memory) (o : UInt16) :
    Resolves (t.shortName m o) := by
  refine resolves_ite (resolves_pure none) ?_
  refine resolves_bind (t.propertyTable_resolves m o) (fun table => ?_)
  exact resolves_read_bind _ (fun _ => resolves_ite (resolves_pure none) (resolves_pure _))

theorem firstAddress_resolves (t : ObjectTable) (m : Memory) (o : UInt16) :
    Resolves (t.firstAddress m o) :=
  resolves_bind (t.propertyTable_resolves m o) (fun _ =>
    resolves_read_bind _ (fun _ => resolves_pure _))

theorem findFrom_resolves (m : Memory) (number fuel address : Nat) :
    Resolves (findFrom m number fuel address) := by
  induction fuel generalizing address with
  | zero => exact resolves_throw rfl
  | succ fuel ih =>
    unfold findFrom
    refine resolves_bind (propertyAt_resolves m address) (fun found => ?_)
    cases found with
    | none => exact resolves_pure none
    | some p => exact resolves_ite (resolves_pure _) (resolves_ite (resolves_pure none) (ih _))

theorem find_resolves (t : ObjectTable) (m : Memory) (o number : UInt16) :
    Resolves (t.find m o number) :=
  resolves_bind (t.firstAddress_resolves m o) (fun _ => findFrom_resolves m _ _ _)

theorem value_resolves (m : Memory) (p : Property) : Resolves (value m p) :=
  resolves_ite (resolves_read_bind _ (fun _ => resolves_pure _)) (resolves_read _)

theorem getProperty_resolves (t : ObjectTable) (m : Memory) (o number : UInt16) :
    Resolves (t.getProperty m o number) := by
  refine resolves_ite (resolves_bind (resolves_pure none) ?_)
    (resolves_bind (t.find_resolves m o number) ?_)
  all_goals
    intro found
    cases found with
    | some p => exact value_resolves m p
    | none => exact resolves_read _

theorem propertyAddress_resolves (t : ObjectTable) (m : Memory) (o number : UInt16) :
    Resolves (t.propertyAddress m o number) := by
  refine resolves_ite (resolves_pure 0) ?_
  refine resolves_bind (t.find_resolves m o number) (fun found => ?_)
  cases found with
  | some p => exact resolves_pure _
  | none => exact resolves_pure 0

theorem propertyLength_resolves (m : Memory) (data : UInt16) :
    Resolves (propertyLength m data) := by
  refine resolves_ite (resolves_pure 0) (resolves_read_bind _ (fun b => ?_))
  exact resolves_ite (resolves_pure _) (resolves_ite (resolves_pure 2) (resolves_pure 1))

theorem nextProperty_resolves (t : ObjectTable) (m : Memory) (o number : UInt16) :
    Resolves (t.nextProperty m o number) := by
  refine resolves_ite (resolves_pure 0) (resolves_ite ?_ ?_)
  · refine resolves_bind (t.firstAddress_resolves m o) (fun a => ?_)
    refine resolves_bind (propertyAt_resolves m a) (fun next => ?_)
    cases next with
    | some p => exact resolves_pure _
    | none => exact resolves_pure 0
  · refine resolves_bind (t.find_resolves m o number) (fun found => ?_)
    cases found with
    | none => exact resolves_pure 0
    | some p =>
      refine resolves_bind (propertyAt_resolves m p.stop) (fun next => ?_)
      cases next with
      | some p => exact resolves_pure _
      | none => exact resolves_pure 0

end ObjectTable

/-! ## Writing to memory -/

namespace Memory

theorem write8_settles (address : Nat) (value : UInt8) : Settles (write8 address value) := by
  intro m e m' h
  unfold write8 at h
  split at h
  · cases h
  · cases h
    rfl

theorem write16_settles (address : Nat) (value : UInt16) : Settles (write16 address value) := by
  intro m e m' h
  unfold write16 at h
  split at h
  · cases h
  · cases h
    rfl

theorem writeBytes_settles (address : Nat) (data : List UInt8) :
    Settles (writeBytes address data) := by
  intro m e m' h
  unfold writeBytes at h
  split at h
  · cases h
  · cases h
    rfl

theorem copyForward_settles (source target count : Nat) :
    Settles (copyForward source target count) := by
  induction count generalizing source target with
  | zero => exact settles_pure ()
  | succ count ih =>
    unfold copyForward
    refine settles_bind settles_get (fun m => settles_bind (settles_read _) (fun b => ?_))
    exact settles_bind (write8_settles target b) (fun _ => ih _ _)

end Memory

theorem Table.copy_settles (source target size : UInt16) :
    Settles (Table.copy source target size) := by
  unfold Table.copy
  refine settles_ite (Memory.writeBytes_settles _ _)
    (settles_ite (Memory.copyForward_settles _ _ _) ?_)
  refine settles_bind settles_get (fun m => settles_bind (settles_read _) (fun data => ?_))
  exact Memory.writeBytes_settles _ data

namespace Header

theorem setExtensionWord_settles (h : Header) (index : Nat) (value : UInt16) :
    Settles (h.setExtensionWord index value) :=
  settles_ite (settles_bind (Memory.write16_settles _ value) (fun _ => settles_pure true))
    (settles_pure false)

theorem writeCapabilities_settles (h : Header) (c : Config) :
    Settles (h.writeCapabilities c) := by
  unfold writeCapabilities
  refine settles_bind (Memory.write8_settles _ _) (fun _ => settles_bind settles_get (fun m => ?_))
  refine settles_bind (settles_read _) (fun flags => ?_)
  refine settles_bind (Memory.write8_settles _ _) (fun _ => ?_)
  refine settles_bind (Memory.write8_settles _ _) (fun _ => ?_)
  refine settles_bind (Memory.write8_settles _ _) (fun _ => ?_)
  refine settles_bind (Memory.write16_settles _ _) (fun _ => ?_)
  refine settles_bind (Memory.write16_settles _ _) (fun _ => ?_)
  refine settles_bind (Memory.write16_settles _ _) (fun _ => ?_)
  refine settles_bind (Memory.write8_settles _ _) (fun _ => ?_)
  refine settles_bind (Memory.write8_settles _ _) (fun _ => ?_)
  exact settles_bind (h.setExtensionWord_settles _ _) (fun _ => settles_pure ())

end Header

namespace ObjectTable

theorem setAttribute_settles (t : ObjectTable) (o attr : UInt16) (on : Bool) :
    Settles (t.setAttribute o attr on) := by
  unfold setAttribute
  refine settles_ite (settles_pure ()) (settles_bind settles_get (fun m => ?_))
  exact settles_bind (settles_read _) (fun b => Memory.write8_settles _ _)

theorem setLink_settles (t : ObjectTable) (l : Link) (o target : UInt16) :
    Settles (t.setLink l o target) :=
  Memory.write16_settles _ target

theorem putProperty_settles (t : ObjectTable) (o number value : UInt16) :
    Settles (t.putProperty o number value) := by
  unfold putProperty
  refine settles_ite (settles_pure ()) (settles_bind settles_get (fun m => ?_))
  refine settles_bind (settles_ask (t.find_resolves m o number)) (fun found => ?_)
  cases found with
  | some p => exact settles_ite (Memory.write8_settles _ _) (Memory.write16_settles _ _)
  | none => exact settles_throw rfl

end ObjectTable

theorem writeSlot_settles (slot entry : Nat) (t : Token) : Settles (writeSlot slot entry t) := by
  unfold writeSlot
  refine settles_bind (Memory.write16_settles _ _) (fun _ => ?_)
  exact settles_bind (Memory.write8_settles _ _) (fun _ => Memory.write8_settles _ _)

theorem writeSlots_settles (d : Dictionary) (a : Alphabet) (text : List UInt8)
    (skipUnknown : Bool) (slot : Nat) (words : List Token) :
    Settles (writeSlots d a text skipUnknown slot words) := by
  induction words generalizing slot with
  | nil => exact settles_pure ()
  | cons t rest ih =>
    unfold writeSlots
    refine settles_bind settles_get (fun m => settles_bind (settles_read _) (fun entry => ?_))
    exact settles_ite (settles_bind (writeSlot_settles slot entry t) (fun _ => ih _)) (ih _)

theorem tokenise_settles (h : Header) (buffer parse dictionary : Nat) (skipUnknown : Bool) :
    Settles (tokenise h buffer parse dictionary skipUnknown) := by
  unfold tokenise
  refine settles_bind settles_get (fun m => settles_bind (settles_read _) (fun d => ?_))
  refine settles_bind (settles_ask (Alphabet.ofStory_resolves m h)) (fun a => ?_)
  refine settles_bind (settles_read _) (fun length => ?_)
  refine settles_bind (settles_read _) (fun text => settles_bind (settles_read _) (fun room => ?_))
  exact settles_bind (writeSlots_settles d a text _ _ _) (fun _ => Memory.write8_settles _ _)

/-! ## The stack -/

namespace Stack

theorem push_settles (value : UInt16) : Settles (push value) := by
  intro s e s' h
  unfold push at h
  split at h
  · cases h
  · cases h
    rfl

/-- What looks at the top of the stack, if there is one. -/
theorem top_settles {f : UInt16 → Stack → EStateM.Result Fault Stack α}
    (hf : ∀ v s e s', f v s ≠ .error e s') :
    Settles (fun s : Stack =>
      if s.values.size ≤ s.floor then .error .stackUnderflow s
      else match s.values.back? with
        | some v => f v s
        | none => .error .stackUnderflow s) := by
  intro s e s' h
  dsimp only at h
  split at h
  · cases h
    rfl
  · cases hback : s.values.back? with
    | none =>
      rw [hback] at h
      cases h
      rfl
    | some v =>
      rw [hback] at h
      exact absurd h (hf v s e s')

theorem peek_settles : Settles peek :=
  top_settles (f := EStateM.Result.ok) (fun v s e s' h => by cases h)

theorem pop_settles : Settles pop :=
  top_settles (f := fun v s => .ok v { s with values := s.values.pop })
    (fun v s e s' h => by cases h)

theorem replaceTop_settles (value : UInt16) : Settles (replaceTop value) := by
  intro s e s' h
  unfold replaceTop at h
  split at h
  · cases h
    rfl
  · cases h

theorem getLocal_settles (index : UInt8) : Settles (getLocal index) := by
  intro s e s' h
  unfold getLocal at h
  split at h
  · cases h
    rfl
  · split at h
    · cases h
    · cases h
      rfl

theorem setLocal_settles (index : UInt8) (value : UInt16) : Settles (setLocal index value) := by
  intro s e s' h
  unfold setLocal at h
  split at h
  · cases h
    rfl
  · split at h
    · cases h
    · cases h
      rfl

theorem pushFrame_settles (f : Frame) : Settles (pushFrame f) := by
  intro s e s' h
  unfold pushFrame at h
  split at h
  · cases h
  · cases h
    rfl

theorem popFrame_settles : Settles popFrame := by
  intro s e s' h
  unfold popFrame at h
  split at h
  · cases h
    rfl
  · cases h

theorem popFrames_settles (count : Nat) : Settles (popFrames count) := by
  induction count with
  | zero => exact settles_pure ()
  | succ count ih => exact settles_bind popFrame_settles (fun _ => ih)

end Stack

/-! ## The machine -/

namespace Machine

theorem onMemory_settles {action : MemoryM α} (h : Settles action) :
    Settles (onMemory action) := by
  intro s e s' he
  rw [onMemory_run] at he
  cases hcase : action s.memory with
  | ok a m =>
    rw [hcase] at he
    cases he
  | error e' m =>
    rw [hcase] at he
    cases he
    exact h _ _ _ hcase

theorem onStack_settles {action : StackM α} (h : Settles action) :
    Settles (onStack action) := by
  intro s e s' he
  rw [onStack_run] at he
  cases hcase : action s.stack with
  | ok a t =>
    rw [hcase] at he
    cases he
  | error e' t =>
    rw [hcase] at he
    cases he
    exact h _ _ _ hcase

theorem ask_settles {question : Memory → Header → Except Fault α}
    (h : ∀ m hd, Resolves (question m hd)) : Settles (ask question) :=
  settles_bind settles_get (fun s => settles_ask (h s.memory s.header))

theorem onObjects_settles {action : ObjectTable → MemoryM α} (h : ∀ t, Settles (action t)) :
    Settles (onObjects action) :=
  settles_bind settles_get (fun s => onMemory_settles (h s.header.objectTable))

theorem syncHeader_settles (c : Config) : Settles (syncHeader c) := by
  unfold syncHeader
  refine settles_bind (settles_modify _) (fun _ => settles_bind settles_get (fun s => ?_))
  exact onMemory_settles (s.header.writeCapabilities_settles c)

theorem readVar_settles (v : Variable) : Settles (readVar v) :=
  settles_ite (onStack_settles Stack.pop_settles)
    (settles_ite (onStack_settles (Stack.getLocal_settles _))
      (ask_settles (fun _ _ => resolves_read _)))

theorem writeVar_settles (v : Variable) (value : UInt16) : Settles (writeVar v value) := by
  unfold writeVar
  refine settles_ite (onStack_settles (Stack.push_settles value)) ?_
  refine settles_ite (onStack_settles (Stack.setLocal_settles _ value)) ?_
  exact settles_bind settles_get (fun s => onMemory_settles (Memory.write16_settles _ value))

theorem readIndirect_settles (v : Variable) : Settles (readIndirect v) :=
  settles_ite (onStack_settles Stack.peek_settles) (readVar_settles v)

theorem writeIndirect_settles (v : Variable) (value : UInt16) :
    Settles (writeIndirect v value) :=
  settles_ite (onStack_settles (Stack.replaceTop_settles value)) (writeVar_settles v value)

theorem store_settles (storer : Option Variable) (value : UInt16) :
    Settles (store storer value) := by
  cases storer with
  | some v => exact writeVar_settles v value
  | none => exact settles_pure ()

theorem selectStream_settles (stream : Int) (table : UInt32) :
    Settles (selectStream stream table) := by
  unfold selectStream
  refine settles_bind settles_get (fun s => ?_)
  refine settles_ite (settles_set _) (settles_ite (settles_set _) (settles_ite ?_ ?_))
  · refine settles_guard rfl (settles_bind (onMemory_settles ?_) (fun _ => settles_modify _))
    exact Memory.write16_settles _ 0
  · refine settles_ite ?_ (settles_pure ())
    cases s.streams.tables with
    | nil => exact settles_pure ()
    | cons done rest =>
      exact settles_bind (settles_set _)
        (fun _ => onMemory_settles (Memory.write16_settles _ done.written))

theorem writeTable_settles (zscii : List UInt8) : Settles (writeTable zscii) := by
  unfold writeTable
  refine settles_bind settles_get (fun s => ?_)
  cases s.streams.tables with
  | nil => exact settles_pure ()
  | cons t rest =>
    refine settles_bind (onMemory_settles (Memory.writeBytes_settles _ zscii)) (fun _ => ?_)
    refine settles_bind (settles_modify _) (fun _ => ?_)
    exact onMemory_settles (Memory.write16_settles _ _)

end Machine

theorem Snapshot.apply_settles (p : Snapshot) : Settles p.apply := by
  intro s e s' h
  unfold apply at h
  split at h
  · cases h
    rfl
  · split at h
    · cases h
      rfl
    · cases h

/-! ## The context -/

namespace Context

theorem onMachine_settles {action : MachineM α} (h : Settles action) :
    Settles (onMachine action) := by
  intro c e c' he
  rw [onMachine_run] at he
  cases hcase : action c.machine with
  | ok a s =>
    rw [hcase] at he
    cases he
  | error e' s =>
    rw [hcase] at he
    cases he
    exact h _ _ _ hcase

theorem onMemory_settles {action : MemoryM α} (h : Settles action) :
    Settles (onMemory action) :=
  onMachine_settles (Machine.onMemory_settles h)

theorem onStack_settles {action : StackM α} (h : Settles action) :
    Settles (onMachine (Machine.onStack action)) :=
  onMachine_settles (Machine.onStack_settles h)

theorem ask_settles {question : Memory → Header → Except Fault α}
    (h : ∀ m hd, Resolves (question m hd)) : Settles (ask question) :=
  onMachine_settles (Machine.ask_settles h)

theorem askObjects_settles {question : ObjectTable → Memory → Except Fault α}
    (h : ∀ t m, Resolves (question t m)) : Settles (onMachine (Machine.askObjects question)) :=
  ask_settles (fun m hd => h hd.objectTable m)

theorem onObjects_settles {action : ObjectTable → MemoryM α} (h : ∀ t, Settles (action t)) :
    Settles (onMachine (Machine.onObjects action)) :=
  onMachine_settles (Machine.onObjects_settles h)

theorem onWindow_settles (change : Window → Window) : Settles (onWindow change) :=
  settles_modify _

theorem note_settles (r : Record) : Settles (note r) :=
  settles_modify _

theorem request_settles (order : Order) : Settles (request order) :=
  settles_modify _

theorem store_settles (storer : Option Variable) (value : UInt16) :
    Settles (store storer value) :=
  onMachine_settles (Machine.store_settles storer value)

theorem jump_settles (address : UInt32) : Settles (jump address) :=
  onMachine_settles (settles_modify _)

theorem ret_settles (value : UInt16) : Settles (ret value) := by
  unfold ret
  refine settles_bind (onStack_settles Stack.popFrame_settles) (fun frame => ?_)
  exact settles_bind (jump_settles _) (fun _ => store_settles _ value)

theorem branch_settles (b : Branch) (condition : Bool) : Settles (branch b condition) := by
  refine settles_ite ?_ (settles_pure ())
  cases b.target with
  | returnFalse => exact ret_settles 0
  | returnTrue => exact ret_settles 1
  | address target => exact jump_settles target

theorem call_settles (packed : UInt16) (arguments : List UInt16) (storer : Option Variable) :
    Settles (call packed arguments storer) := by
  unfold call
  refine settles_ite (store_settles storer 0) (settles_bind settles_get (fun c => ?_))
  refine settles_bind (settles_read _) (fun count => settles_guard rfl ?_)
  exact settles_bind (onStack_settles (Stack.pushFrame_settles _)) (fun _ => jump_settles _)

theorem catchCookie_settles : Settles catchCookie :=
  settles_bind settles_get (fun _ => settles_pure _)

theorem throwTo_settles (value cookie : UInt16) : Settles (throwTo value cookie) := by
  unfold throwTo
  refine settles_bind settles_get (fun c => settles_guard rfl ?_)
  exact settles_bind (onStack_settles (Stack.popFrames_settles _)) (fun _ => ret_settles value)

theorem argCount_settles : Settles argCount := by
  unfold argCount
  refine settles_bind settles_get (fun c => ?_)
  cases c.machine.stack.frames with
  | nil => exact settles_pure 0
  | cons f rest => exact settles_pure f.argCount

theorem print_settles (text : String) : Settles (print text) := by
  unfold print
  refine settles_bind settles_get (fun c => settles_ite ?_ ?_)
  · refine settles_bind (ask_settles ExtraChars.ofStory_resolves) (fun extra => ?_)
    exact onMachine_settles (Machine.writeTable_settles _)
  · exact settles_ite (onWindow_settles _) (settles_pure ())

theorem printZString_settles (address : Nat) : Settles (printZString address) := by
  unfold printZString
  refine settles_bind (ask_settles (fun m h => ZString.decode_resolves m h address)) (fun d => ?_)
  exact settles_bind (print_settles d.text) (fun _ => settles_pure _)

theorem charOf_settles (code : UInt16) : Settles (charOf code) :=
  settles_bind (ask_settles ExtraChars.ofStory_resolves) (fun _ => settles_pure _)

theorem printZscii_settles (code : UInt16) : Settles (printZscii code) := by
  unfold printZscii
  refine settles_bind (charOf_settles code) (fun found => ?_)
  cases found with
  | none => exact settles_pure ()
  | some c => exact print_settles _

theorem saveUndo_settles (storer : Option Variable) : Settles (saveUndo storer) :=
  settles_bind (settles_modify _) (fun _ => store_settles storer 1)

theorem restoreUndo_settles (config : Config) (storer : Option Variable) :
    Settles (restoreUndo config storer) := by
  unfold restoreUndo
  refine settles_bind settles_get (fun c => ?_)
  cases c.undo.pop with
  | none => exact store_settles storer 0
  | some r =>
    refine settles_bind (settles_modify _) (fun _ => ?_)
    refine settles_bind (onMachine_settles r.1.apply_settles) (fun _ => ?_)
    refine settles_bind (onMachine_settles (Machine.syncHeader_settles config)) (fun _ => ?_)
    exact store_settles r.1.storer 2

theorem draw_settles (range : Nat) : Settles (draw range) :=
  settles_bind settles_get (fun _ => settles_bind (settles_set _) (fun _ => settles_pure _))

end Context

namespace Table

theorem rowText_settles (codes : List UInt8) : Settles (rowText codes) :=
  settles_bind (settles_filterMapM (fun _ => Context.charOf_settles _) codes)
    (fun _ => settles_pure _)

theorem print_settles (width skip : Nat) (first : Bool) (rows address : Nat) :
    Settles (print width skip first rows address) := by
  induction rows generalizing first address with
  | zero => exact settles_pure ()
  | succ rows ih =>
    unfold print
    have hrow : Settles (do
        let codes ← (← get).machine.memory.readBytes address width
        Context.print (← rowText codes)
        print width skip false rows (address + width + skip) : Exec Unit) := by
      refine settles_bind settles_get (fun c => settles_bind (settles_read _) (fun codes => ?_))
      refine settles_bind (rowText_settles codes) (fun text => ?_)
      exact settles_bind (Context.print_settles text) (fun _ => ih _ _)
    exact settles_ite (settles_bind (Context.print_settles _) (fun _ => hrow)) hrow

end Table

/-! ## Instructions -/

open Context

namespace Instruction

theorem operandValues_settles (operands : List Operand) : Settles (operandValues operands) := by
  induction operands with
  | nil => exact settles_pure []
  | cons operand rest ih =>
    cases operand with
    | const v => exact settles_bind ih (fun _ => settles_pure _)
    | var source =>
      refine settles_bind (onMachine_settles (Machine.readVar_settles source)) (fun v => ?_)
      exact settles_bind ih (fun _ => settles_pure _)

theorem need_settles (i : Instruction) (ops : List UInt16) (n : Nat) : Settles (i.need ops n) :=
  settles_ite (settles_throw rfl) (settles_pure ())

theorem branchIf_settles (i : Instruction) (condition : Bool) :
    Settles (i.branchIf condition) := by
  unfold branchIf
  cases i.branch with
  | some b => exact branch_settles b condition
  | none => exact settles_pure ()

theorem stepVariable_settles (number delta : UInt16) : Settles (stepVariable number delta) := by
  unfold stepVariable
  refine settles_bind (onMachine_settles (Machine.readIndirect_settles _)) (fun value => ?_)
  refine settles_bind (onMachine_settles (Machine.writeIndirect_settles _ _)) (fun _ => ?_)
  exact settles_pure _

/-- A result that is computed first and then stored. -/
theorem result_settles {x : Exec α} (hx : Settles x) (storer : Option Variable)
    (value : α → UInt16) : Settles (do Context.store storer (value (← x))) :=
  settles_bind hx (fun _ => Context.store_settles storer _)

/-- A condition that is computed first and then decides a branch. -/
theorem condition_settles {x : Exec α} (hx : Settles x) (i : Instruction)
    (condition : α → Bool) : Settles (do i.branchIf (condition (← x))) :=
  settles_bind hx (fun _ => i.branchIf_settles _)

/-- A result that is stored and, unless it is 0, decides a branch. -/
theorem found_settles (i : Instruction) (value : UInt16) :
    Settles (do
      Context.store i.store value
      i.branchIf (value != 0)) :=
  settles_bind (Context.store_settles i.store value) (fun _ => i.branchIf_settles _)

/-- Every operation terminates that does not take an object out of the tree. -/
theorem perform_settles (config : Config) (i : Instruction) (ops : List UInt16)
    (hremove : i.opcode ≠ .removeObj) (hinsert : i.opcode ≠ .insertObj) :
    Settles (i.perform config ops) := by
  unfold perform
  dsimp only
  cases hop : i.opcode with
  | add | sub | mul | or | and | not | logShift | artShift | checkUnicode | setFont =>
    exact Context.store_settles i.store _
  | div | mod =>
    refine settles_bind (need_settles i ops 2) (fun _ => ?_)
    exact settles_guard rfl (Context.store_settles i.store _)
  | je => exact settles_bind (need_settles i ops 1) (fun _ => branchIf_settles i _)
  | jl | jg | jz | test | piracy => exact branchIf_settles i _
  | decChk | incChk => exact condition_settles (stepVariable_settles _ _) i _
  | jump => exact jump_settles _
  | store => exact onMachine_settles (Machine.writeIndirect_settles _ _)
  | load => exact result_settles (onMachine_settles (Machine.readIndirect_settles _)) i.store id
  | inc | dec => exact settles_bind (stepVariable_settles _ _) (fun _ => settles_pure ())
  | push => exact onStack_settles (Stack.push_settles _)
  | pull =>
    exact settles_bind (onStack_settles Stack.pop_settles)
      (fun _ => onMachine_settles (Machine.writeIndirect_settles _ _))
  | loadw => exact result_settles (ask_settles (fun _ _ => resolves_read _)) i.store id
  | loadb => exact result_settles (ask_settles (fun _ _ => resolves_read _)) i.store UInt8.toUInt16
  | storew =>
    exact settles_bind (need_settles i ops 3)
      (fun _ => Context.onMemory_settles (Memory.write16_settles _ _))
  | storeb =>
    exact settles_bind (need_settles i ops 3)
      (fun _ => Context.onMemory_settles (Memory.write8_settles _ _))
  -- calls and returns
  | call1s | call2s | callVs | callVs2 | call1n | call2n | callVn | callVn2 =>
    exact settles_bind (need_settles i ops 1) (fun _ => call_settles _ _ _)
  | ret | rtrue | rfalse => exact ret_settles _
  | retPopped => exact settles_bind (onStack_settles Stack.pop_settles) (fun v => ret_settles v)
  | catchFrame => exact result_settles catchCookie_settles i.store id
  | throwFrame => exact throwTo_settles _ _
  | checkArgCount => exact condition_settles argCount_settles i _
  -- objects
  | removeObj => exact absurd hop hremove
  | insertObj => exact absurd hop hinsert
  | jin => exact condition_settles (askObjects_settles (fun t m => t.link_resolves _ m _)) i _
  | testAttr =>
    exact condition_settles (askObjects_settles (fun t m => t.testAttribute_resolves m _ _)) i _
  | setAttr => exact onObjects_settles (fun t => t.setAttribute_settles _ _ true)
  | clearAttr => exact onObjects_settles (fun t => t.setAttribute_settles _ _ false)
  | getParent =>
    exact result_settles (askObjects_settles (fun t m => t.link_resolves _ m _)) i.store id
  | getSibling | getChild =>
    exact settles_bind (askObjects_settles (fun t m => t.link_resolves _ m _))
      (fun o => found_settles i o)
  | getProp =>
    exact result_settles (askObjects_settles (fun t m => t.getProperty_resolves m _ _)) i.store id
  | getPropAddr =>
    exact result_settles (askObjects_settles (fun t m => t.propertyAddress_resolves m _ _))
      i.store id
  | getPropLen =>
    exact result_settles (ask_settles (fun m _ => ObjectTable.propertyLength_resolves m _))
      i.store id
  | getNextProp =>
    exact result_settles (askObjects_settles (fun t m => t.nextProperty_resolves m _ _)) i.store id
  | putProp =>
    exact settles_bind (need_settles i ops 3)
      (fun _ => onObjects_settles (fun t => t.putProperty_settles _ _ _))
  -- text
  | print | printRet =>
    have hend (b : Prop) [Decidable b] : Settles (if b then do
        Context.print "\n"
        Context.ret 1
      else pure () : Exec Unit) :=
      settles_ite (settles_bind (print_settles _) (fun _ => ret_settles 1)) (settles_pure ())
    cases i.text with
    | none => exact hend _
    | some address => exact settles_bind (printZString_settles address.toNat) (fun _ => hend _)
  | printAddr => exact settles_bind (printZString_settles _) (fun _ => settles_pure ())
  | printPaddr =>
    exact settles_bind settles_get
      (fun _ => settles_bind (printZString_settles _) (fun _ => settles_pure ()))
  | printObj =>
    refine settles_bind (askObjects_settles (fun t m => t.shortName_resolves m _)) (fun found => ?_)
    cases found with
    | none => exact settles_pure ()
    | some address =>
      exact settles_bind (printZString_settles address) (fun _ => settles_pure ())
  | printChar => exact printZscii_settles _
  | printNum | printUnicode | newLine => exact print_settles _
  | printTable =>
    exact settles_bind (need_settles i ops 2) (fun _ => Table.print_settles _ _ _ _ _)
  -- screen
  | splitWindow | setWindow | eraseWindow | setTextStyle | setColour => exact onWindow_settles _
  | eraseLine | setCursor => exact settles_ite (onWindow_settles _) (settles_pure ())
  | getCursor =>
    refine settles_bind settles_get (fun c => ?_)
    exact settles_bind (Context.onMemory_settles (Memory.write16_settles _ _))
      (fun _ => Context.onMemory_settles (Memory.write16_settles _ _))
  | outputStream =>
    refine settles_bind (onMachine_settles (Machine.selectStream_settles _ _)) (fun _ => ?_)
    exact settles_ite (note_settles _) (settles_pure ())
  | bufferMode | inputStream | soundEffect | nop => exact settles_pure ()
  -- tables
  | scanTable =>
    refine settles_bind (need_settles i ops 3) (fun _ => ?_)
    exact settles_bind (ask_settles (fun _ _ => resolves_read _)) (fun _ => found_settles i _)
  | copyTable =>
    exact settles_bind (need_settles i ops 3)
      (fun _ => Context.onMemory_settles (Table.copy_settles _ _ _))
  | random =>
    refine settles_ite (result_settles (draw_settles _) i.store id) ?_
    exact settles_bind (onMachine_settles (settles_modify _))
      (fun _ => Context.store_settles i.store 0)
  | verify => exact settles_bind settles_get (fun _ => branchIf_settles i _)
  -- input and dictionary
  | tokenise =>
    refine settles_bind (need_settles i ops 2) (fun _ => settles_bind settles_get (fun c => ?_))
    exact settles_bind (Context.onMemory_settles (tokenise_settles _ _ _ _ _))
      (fun _ => note_settles _)
  | encodeText =>
    refine settles_bind (need_settles i ops 4) (fun _ => ?_)
    refine settles_bind (ask_settles (fun _ _ => resolves_read _)) (fun source => ?_)
    refine settles_bind (ask_settles Alphabet.ofStory_resolves) (fun alphabet => ?_)
    exact Context.onMemory_settles (Memory.writeBytes_settles _ _)
  | aread =>
    refine settles_bind (need_settles i ops 1) (fun _ => ?_)
    exact settles_bind (ask_settles (fun _ _ => resolves_read _)) (fun _ => request_settles _)
  | readChar | restart | quit => exact request_settles _
  -- saving
  | save =>
    refine settles_ite (Context.store_settles _ _) (settles_bind settles_get (fun c => ?_))
    cases (Snapshot.capture c.machine i.store).encode c.machine.story with
    | ok data => exact request_settles _
    | error e => exact settles_throw rfl
  | restore => exact settles_ite (Context.store_settles _ _) (request_settles _)
  | saveUndo => exact saveUndo_settles i.store
  | restoreUndo => exact restoreUndo_settles config i.store

end Instruction
end ZMachine
