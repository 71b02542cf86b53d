import ZMachine.Proofs.Engine.Saving
import ZMachine.Proofs.Engine.Slicing

/-!
# Going back

A machine goes back to a snapshot in two ways: the undo history has it at hand, and a save of the
host spells it in bytes.  Both are one action on the machine, `Machine.goBack`:

    restoreUndo = goBack p on the machine        where p is the newest checkpoint
    restore     = goBack p on the machine        where p is what the save spells

A save that cannot be used is as good as none: both are a 0 in the variable that was asked for, and
what differs is the journal, which no run reads.
-/

namespace ZMachine

variable {α β ε : Type}

/-! ## Actions on the machine -/

namespace Context

theorem onMachine_bind (x : MachineM α) (f : α → MachineM β) :
    onMachine (x >>= f) = onMachine x >>= fun a => onMachine (f a) := by
  funext c
  cases h : x c.machine with
  | ok a s =>
    have hx : onMachine x c = .ok a { c with machine := s } := by
      rw [onMachine_run, h]
    rw [onMachine_run, bind_ok h, bind_ok hx]
    rfl
  | error fault s =>
    have hx : onMachine x c = .error fault { c with machine := s } := by
      rw [onMachine_run, h]
    rw [onMachine_run, bind_error h, bind_error hx]

end Context

namespace Engine

theorem onMachine_bind (x : MachineM α) (f : α → MachineM β) :
    onMachine (x >>= f) = onMachine x >>= fun a => onMachine (f a) := by
  funext e
  cases hmachine : e.machine with
  | none => rw [onMachine_none hmachine, bind_error (onMachine_none hmachine x)]
  | some s =>
    cases h : x s with
    | ok a s' =>
      have hx : onMachine x e = .ok a { e with machine := some s' } := by
        rw [onMachine_run hmachine, h]
      rw [onMachine_run hmachine, bind_ok h, bind_ok hx, onMachine_run rfl]
    | error fault s' =>
      have hx : onMachine x e = .error fault { e with machine := some s' } := by
        rw [onMachine_run hmachine, h]
      rw [onMachine_run hmachine, bind_error h, bind_error hx]

end Engine

/-! ## Going back to a snapshot -/

namespace Machine

variable {s : Machine} {data : List UInt8} {p : Snapshot}

/-- Puts the machine back to a snapshot, with the header brought up to date, and tells it by a 2. -/
def goBack (config : Config) (p : Snapshot) : MachineM Unit := do
  p.apply
  syncHeader config
  store p.storer 2

theorem goBack_run (config : Config)
    (h : p.belongsTo s.header = true ∧ p.memory.size = s.memory.size) :
    goBack config p s = (do syncHeader config; store p.storer 2 : MachineM Unit) (p.onto s) := by
  rcases p.apply_cases s with ⟨fault, hfits, -⟩ | ⟨-, happlied⟩
  · exact absurd h hfits
  · exact bind_ok happlied

theorem readSave?_eq_some_iff : s.readSave? data = some p ↔
    Snapshot.decode data s.story = .ok p ∧
      p.belongsTo s.header = true ∧ p.memory.size = s.memory.size := by
  unfold readSave?
  cases Snapshot.decode data s.story with
  | error fault => simp
  | ok q =>
    dsimp only
    split
    · next hfits =>
      constructor
      · intro h
        cases h
        exact ⟨rfl, hfits⟩
      · rintro ⟨h, -⟩
        cases h
        rfl
    · next hfits =>
      constructor
      · intro h
        cases h
      · rintro ⟨h, hp⟩
        cases h
        exact absurd hp hfits

theorem readSave?_eq_none_iff : s.readSave? data = none ↔
    (∃ fault, Snapshot.decode data s.story = .error fault) ∨
      ∃ p, Snapshot.decode data s.story = .ok p ∧
        (p.belongsTo s.header = false ∨ p.memory.size ≠ s.memory.size) := by
  unfold readSave?
  cases Snapshot.decode data s.story with
  | error fault => simp
  | ok p => cases hbelongs : p.belongsTo s.header <;> simp [hbelongs]

end Machine

/-- The undo history goes back to its newest checkpoint. -/
theorem Context.restoreUndo_eq (config : Config) (storer : Option Variable) {c : Context}
    {p : Snapshot} {undo : Undo} (h : c.undo.pop = some (p, undo)) :
    restoreUndo config storer c = onMachine (Machine.goBack config p) { c with undo } := by
  unfold restoreUndo Machine.goBack
  rw [get_bind, h]
  simp only [onMachine_bind]
  rfl

namespace Engine

/-! ## Restoring -/

section

variable {e : Engine} {s : Machine} {data : List UInt8} (hs : e.machine = some s)
  (hrunning : s.halted = false)
include hs hrunning

/-- A restore goes back to the snapshot that its save spells. -/
theorem restore_eq {p : Snapshot} (hp : s.readSave? data = some p) (storer : Option Variable) :
    restore (some data) storer e = onMachine (Machine.goBack e.config p) e := by
  rw [restore_of_readSave? hs hrunning hp storer, ← onMachine_bind, onMachine_run hs,
    onMachine_run rfl, Machine.goBack_run e.config (Machine.readSave?_eq_some_iff.1 hp).2]

theorem restore_none (storer : Option Variable) :
    restore none storer e = onMachine (Machine.store storer 0) e := by
  unfold restore
  rw [bind_ok (checkRunning_of_running hs hrunning)]

/-- A save that cannot be used is noted. -/
theorem restore_refused (hp : s.readSave? data = none) (storer : Option Variable) :
    restore (some data) storer e =
      onMachine (Machine.store storer 0) { e with journal := e.journal.note .saveRefused } := by
  have htry : onMachine (try some <$> applySave data catch _ => pure none) e = .ok none e := by
    rw [onMachine_run hs, Machine.tryApplySave_run, hp]
    dsimp only
    rw [with_machine hs]
  unfold restore
  rw [bind_ok (checkRunning_of_running hs hrunning)]
  dsimp only
  rw [bind_ok htry]
  rfl

end

/-- A restore event begins with one action on the machine. -/
theorem begin_restore {data : Option (List UInt8)} {storer : Option Variable} {env : Option Patch}
    {e e' : Engine} {s : Machine} {action : MachineM Unit} (hs : e'.machine = some s)
    (h : restore data storer (ready ⟨.restore data storer, env⟩ e) = onMachine action e') :
    begin ⟨.restore data storer, env⟩ e = match action s with
      | .ok _ s' => .ok true { e' with machine := some s' }
      | .error fault s' => .error fault { e' with machine := some s' } := by
  rw [onMachine_run hs] at h
  rw [begin_run]
  show (do restore data storer; return true : EngineM Bool) _ = _
  cases haction : action s with
  | ok u s' =>
    rw [haction] at h
    exact bind_ok h
  | error fault s' =>
    rw [haction] at h
    exact bind_error h

/-! ## The two ways back -/

/-- Restoring a save that spells a snapshot ends like going back to that snapshot in an undo history. -/
theorem begin_restore_agrees {s : Machine} (hrunning : s.halted = false) {data : List UInt8}
    {p : Snapshot} (hread : s.readSave? data = some p) {e : Engine} {c : Context} {undo : Undo}
    (he : e.machine = some s) (hc : c.machine = s) (hundo : c.undo.pop = some (p, undo))
    (storer storer' : Option Variable) (env : Option Patch) :
    let envelope : Envelope := ⟨.restore (some data) storer, env⟩
    let restored := begin envelope e
    let popped := Context.restoreUndo (ready envelope e).config storer' c
    outcome restored = (outcome popped).map (fun _ => true) ∧
      (endState restored).machine = some (endState popped).machine := by
  intro envelope restored popped
  have he' : (ready envelope e).machine = some s := (ready_kept envelope e).1.trans he
  have hrestored : restored = _ := begin_restore he' (restore_eq he' hrunning hread storer)
  have hpopped : popped = _ := Context.restoreUndo_eq _ storer' hundo
  rw [Context.onMachine_run] at hpopped
  rw [hrestored, hpopped]
  subst hc
  dsimp only
  cases Machine.goBack (ready envelope e).config p c.machine with
  | ok u s' => exact ⟨rfl, rfl⟩
  | error fault s' => exact ⟨rfl, rfl⟩

/-- A snapshot of a sound machine of the same story is read from its save, if its numbers fit. -/
theorem readSave?_of_fits {s saved : Machine} (hs : s.Sound) (hsaved : saved.Sound)
    (hstory : saved.story = s.story) {target : Option Variable} {data : List UInt8}
    (hencode : (Snapshot.capture saved target).encode s.story = .ok data)
    (hfits : (Snapshot.capture saved target).Fits s.story) :
    s.readSave? data = some (.capture saved target) := by
  have hsize : (Snapshot.capture saved target).memory.size = s.story.size :=
    hsaved.2.trans (congrArg Memory.size hstory)
  obtain ⟨bytes, hbytes, hdecode⟩ := Snapshot.decode_encode _ _ hsize hfits
  rw [hencode] at hbytes
  cases hbytes
  have hbelongs : (Snapshot.capture saved target).belongsTo s.header = true := by
    rw [← hsaved.header_eq hs hstory]
    exact Snapshot.belongsTo_capture saved target
  exact Machine.readSave?_eq_some_iff.2 ⟨hdecode, hbelongs, hsize.trans hs.2.symm⟩

/-- **Both ways back lead to one machine.**  A snapshot was taken of a machine of the same story.
Its save can be written, and if its numbers fit, as those of a machine within its limits do, then
restoring the save ends like going back to the snapshot in an undo history, with the same machine
where execution goes on. -/
theorem ways_back_agree {s saved : Machine} (hs : s.Sound) (hsaved : saved.Sound)
    (hstory : saved.story = s.story) (hrunning : s.halted = false) (target : Option Variable) :
    ∃ data, (Snapshot.capture saved target).encode s.story = .ok data ∧
      ((Snapshot.capture saved target).Fits s.story →
        ∀ (e : Engine) (c : Context) (undo : Undo), e.machine = some s → c.machine = s →
          c.undo.pop = some (.capture saved target, undo) →
          ∀ (storer storer' : Option Variable) (env : Option Patch),
            let envelope : Envelope := ⟨.restore (some data) storer, env⟩
            let restored := begin envelope e
            let popped := Context.restoreUndo (ready envelope e).config storer' c
            outcome restored = (outcome popped).map (fun _ => true) ∧
              (endState restored).machine = some (endState popped).machine) := by
  have hsize : (Snapshot.capture saved target).memory.size = s.story.size :=
    hsaved.2.trans (congrArg Memory.size hstory)
  have hencode := Snapshot.encode_eq_ok _ _ hsize
  refine ⟨_, hencode, fun hfits e c undo he hc hundo => ?_⟩
  have hread := readSave?_of_fits hs hsaved hstory hencode hfits
  exact begin_restore_agrees hrunning hread he hc hundo

/-- A machine within its limits has a save that is a way back. -/
theorem ways_back_agree_of_limits {s saved : Machine} (hs : s.Sound) (hsaved : saved.Sound)
    (hlimits : saved.WithinLimits) (hstory : saved.story = s.story) (hrunning : s.halted = false)
    (target : Option Variable) :
    ∃ data, (Snapshot.capture saved target).encode s.story = .ok data ∧
      ∀ (e : Engine) (c : Context) (undo : Undo), e.machine = some s → c.machine = s →
        c.undo.pop = some (.capture saved target, undo) →
        ∀ (storer storer' : Option Variable) (env : Option Patch),
          let envelope : Envelope := ⟨.restore (some data) storer, env⟩
          let restored := begin envelope e
          let popped := Context.restoreUndo (ready envelope e).config storer' c
          outcome restored = (outcome popped).map (fun _ => true) ∧
            (endState restored).machine = some (endState popped).machine := by
  have hsize : (Snapshot.capture saved target).memory.size = s.story.size :=
    hsaved.2.trans (congrArg Memory.size hstory)
  have hencode := Snapshot.encode_eq_ok _ _ hsize
  have hread := readSave?_of_fits hs hsaved hstory hencode (hlimits.fits target s.story)
  exact ⟨_, hencode, fun _ _ _ he hc hundo => begin_restore_agrees hrunning hread he hc hundo⟩

/-- The story that saves has been played on, and goes back to where its first global was 0. -/
theorem ways_back_agree_saving :
    ∃ s saved : Machine, s.Sound ∧ saved.Sound ∧ saved.story = s.story ∧ s.halted = false ∧
      saved.memory ≠ s.memory ∧ (Snapshot.capture saved (some ⟨16⟩)).Fits s.story ∧
      ∃ data, (Snapshot.capture saved (some ⟨16⟩)).encode s.story = .ok data ∧
        let e : Engine := { machine := some s, undo := .ofDepth 1 }
        let c : Context :=
          { machine := s, undo := ⟨[.capture saved (some ⟨16⟩)], 1⟩, control := some .tick }
        let restored := begin ⟨.restore (some data) none, none⟩ e
        let popped := Context.restoreUndo e.config none c
        outcome restored = (outcome popped).map (fun _ => true) ∧
          (endState restored).machine = some (endState popped).machine := by
  obtain ⟨first, hmade, hplayed, hfits⟩ : ∃ first,
      Machine.start (.ofList (savingStory (List.replicate 8 0))) none = .ok first ∧
      first.memory ≠ first.memory.set8 0x48 9 ∧
      (Snapshot.capture { first with pc := 0x44, stack := ⟨#[7], []⟩ } (some ⟨16⟩)).Fits
        first.story :=
    exists_ok (by decide +kernel)
  obtain ⟨hsound, -, hrunning, -⟩ := Machine.start_eq_ok hmade
  let s : Machine := { first with memory := first.memory.set8 0x48 9 }
  let saved : Machine := { first with pc := 0x44, stack := ⟨#[7], []⟩ }
  have hs : s.Sound := ⟨hsound.1, (Memory.size_set8 _ _ _).trans hsound.2⟩
  have hsaved : saved.Sound := hsound
  obtain ⟨data, hencode, hagree⟩ := ways_back_agree hs hsaved rfl hrunning (some ⟨16⟩)
  exact ⟨s, saved, hs, hsaved, rfl, hrunning, hplayed, hfits, data, hencode,
    hagree hfits _ _ ⟨[], 1⟩ rfl rfl rfl none none none⟩

/-! ## Refused saves -/

variable {e e' : Engine}

theorem forget_fields (h : e'.forget = e.forget) : e'.config = e.config ∧ e'.story = e.story ∧
    e'.machine = e.machine ∧ e'.cache = e.cache ∧ e'.undo = e.undo ∧ e'.window = e.window ∧
      e'.entropy = e.entropy := by
  unfold forget at h
  injection h with hconfig hstory hmachine hcache hundo hwindow hentropy
  exact ⟨hconfig, hstory, hmachine, hcache, hundo, hwindow, hentropy⟩

theorem run_eq_with_journal {r other : Run} (h : other.core = r.core)
    (hwindow : other.window = r.window) : ∃ j, other = { r with context.journal := j } := by
  obtain ⟨⟨s, w, u, control, n, j⟩, cache⟩ := r
  obtain ⟨⟨s', w', u', control', n', j'⟩, cache'⟩ := other
  simp only [Run.core, Context.core, Prod.mk.injEq] at h
  obtain ⟨⟨rfl, rfl, rfl, rfl, -⟩, rfl⟩ := h
  cases hwindow
  exact ⟨j', rfl⟩

/-- The story runs alike in engines that are alike but for their journals. -/
theorem run_of_forget (h : e'.forget = e.forget) (units : Nat) :
    Alike forget (run units e) (run units e') := by
  obtain ⟨hconfig, hstory, hmachine, hcache, hundo, hwindow, hentropy⟩ := forget_fields h
  cases hs : e.machine with
  | none =>
    rw [run_none (hmachine.trans hs), run_none hs]
    refine ⟨rfl, ?_⟩
    simp only [endState_error, forget, hconfig, hstory, hmachine, hcache, hundo, hentropy]
  | some s =>
    have htells := Run.loop_tells e.config units
    have hplayed := htells.window_eq ⟨e.contextOf s, e.cache⟩
    have hcore : Run.core ⟨e'.contextOf s, e'.cache⟩ = Run.core ⟨e.contextOf s, e.cache⟩ := by
      simp only [Run.core, Context.core, contextOf, hcache, hundo, hentropy, hwindow]
    have hsame : Run.window ⟨e'.contextOf s, e'.cache⟩ = Run.window ⟨e.contextOf s, e.cache⟩ :=
      hwindow
    rw [run_of_toRun? (toRun?_of_machine hs), run_of_toRun? (toRun?_of_machine (hmachine.trans hs)),
      hconfig]
    -- the two loops end alike but for the journal
    cases hloop : Run.loop e.config units ⟨e.contextOf s, e.cache⟩ with
    | ok control last =>
      obtain ⟨last', hloop', hcore', hwindow'⟩ := htells.of_ok hcore hloop
      rw [hsame, ← hplayed, hloop] at hwindow'
      obtain ⟨j, rfl⟩ := run_eq_with_journal hcore' hwindow'
      rw [hloop']
      exact ⟨rfl, by simp only [endState_ok, forget, hstory]⟩
    | error fault last =>
      obtain ⟨last', hloop', hcore', hwindow'⟩ := htells.of_error hcore hloop
      rw [hsame, ← hplayed, hloop] at hwindow'
      obtain ⟨j, rfl⟩ := run_eq_with_journal hcore' hwindow'
      rw [hloop']
      exact ⟨rfl, by simp only [endState_error, forget, hstory]⟩

/-- Events that begin alike but for the journal are handled alike but for the journal. -/
theorem handleWithin_of_begin {envelope other : Envelope}
    (h : Alike forget (begin envelope e) (begin other e)) (units : Config → Nat) :
    Alike forget (handleWithin units envelope e) (handleWithin units other e) := by
  rw [handleWithin_eq, handleWithin_eq]
  refine h.bind (fun goes e₁ e₂ _ hforget => ?_)
  cases goes with
  | false => exact ⟨rfl, hforget⟩
  | true =>
    have hconfig : e₂.config = e₁.config := (forget_fields hforget).1
    show Alike forget (run (units e₁.config) e₁) (run (units e₂.config) e₂)
    rw [hconfig]
    exact run_of_forget hforget (units e₁.config)

/-- **A refused save is a missing one.**  Save data that spell no snapshot, or one that belongs to
another story or has another size, are answered as if there were none, and nothing is left of them
but a note in the journal.  Before the story runs the machine has got a 0 in the variable asked for,
and nothing else. -/
theorem refused_save_is_missing {s : Machine} (hs : e.machine = some s)
    (hrunning : s.halted = false) {data : List UInt8}
    (hrefused : (∃ fault, Snapshot.decode data s.story = .error fault) ∨
      ∃ p, Snapshot.decode data s.story = .ok p ∧
        (p.belongsTo s.header = false ∨ p.memory.size ≠ s.memory.size))
    (storer : Option Variable) (env : Option Patch) (units : Config → Nat) :
    let refused : Envelope := ⟨.restore (some data) storer, env⟩
    let missing : Envelope := ⟨.restore none storer, env⟩
    (outcome (handleWithin units refused e) = outcome (handleWithin units missing e) ∧
      (endState (handleWithin units refused e)).forget =
        (endState (handleWithin units missing e)).forget) ∧
      outcome (begin refused e) = (outcome (Machine.store storer 0 s)).map (fun _ => true) ∧
      (endState (begin refused e)).forget = { (ready missing e).forget with
        machine := some (endState (Machine.store storer 0 s)) } := by
  intro refused missing
  have hs' : (ready missing e).machine = some s := (ready_kept missing e).1.trans hs
  have hp := Machine.readSave?_eq_none_iff.2 hrefused
  have hbegin := begin_restore hs' (restore_none hs' hrunning storer)
  let noted : Engine :=
    { ready missing e with journal := (ready missing e).journal.note .saveRefused }
  have hnoted : noted.machine = some s := hs'
  have hbegin' : begin refused e = _ :=
    begin_restore hnoted (restore_refused hs' hrunning hp storer)
  refine ⟨handleWithin_of_begin ?_ units, ?_⟩
  · rw [hbegin, hbegin']
    cases Machine.store storer 0 s <;> exact ⟨rfl, rfl⟩
  · rw [hbegin']
    cases Machine.store storer 0 s <;> exact ⟨rfl, rfl⟩

/-- A save of another release of the story is well formed, but it is not this story's.  The first
global, which was asked for, was 0x0900 and is 0 then. -/
theorem refused_save_is_missing_release :
    ∃ (s : Machine) (data : List UInt8) (p : Snapshot), s.halted = false ∧
      Snapshot.decode data s.story = .ok p ∧ p.belongsTo s.header = false ∧
      let e : Engine := { machine := some s, undo := .ofDepth 1 }
      let refused : Envelope := ⟨.restore (some data) (some ⟨16⟩), none⟩
      let missing : Envelope := ⟨.restore none (some ⟨16⟩), none⟩
      outcome (handle refused e) = outcome (handle missing e) ∧
        (endState (handle refused e)).forget = (endState (handle missing e)).forget ∧
        (endState (begin refused e)).machine =
          some (endState (Machine.store (some ⟨16⟩) 0 s)) ∧
        s.memory.read16 0x48 = .ok 0x0900 ∧
        ∃ s', outcome (begin refused e) = .ok true ∧
          (endState (begin refused e)).machine = some s' ∧ s'.memory.read16 0x48 = .ok 0 := by
  obtain ⟨first, hmade, hforeign, hfits, hbefore, hstored, hafter⟩ : ∃ first,
      Machine.start (.ofList (savingStory (List.replicate 8 0))) none = .ok first ∧
      let s : Machine := { first with memory := first.memory.set8 0x48 9 }
      ({ Snapshot.capture s none with release := 7 } : Snapshot).belongsTo s.header = false ∧
      ({ Snapshot.capture s none with release := 7 } : Snapshot).Fits s.story ∧
      s.memory.read16 0x48 = .ok 0x0900 ∧ outcome (Machine.store (some ⟨16⟩) 0 s) = .ok () ∧
      (endState (Machine.store (some ⟨16⟩) 0 s)).memory.read16 0x48 = .ok 0 :=
    exists_ok (by decide +kernel)
  obtain ⟨hsound, -, hrunning, -⟩ := Machine.start_eq_ok hmade
  let s : Machine := { first with memory := first.memory.set8 0x48 9 }
  have hsize : s.memory.size = s.story.size := (Memory.size_set8 _ _ _).trans hsound.2
  obtain ⟨data, -, hdecode⟩ := Snapshot.decode_encode _ _ hsize hfits
  let e : Engine := { machine := some s, undo := .ofDepth 1 }
  have hs : e.machine = some s := rfl
  obtain ⟨⟨houtcome, hforget⟩, hbegin, hleft⟩ := refused_save_is_missing hs hrunning
    (.inr ⟨_, hdecode, .inl hforeign⟩) (some ⟨16⟩) none Config.sliceUnits
  have hmachine := congrArg Engine.machine hleft
  rw [hstored] at hbegin
  exact ⟨s, data, _, hrunning, hdecode, hforeign, houtcome, hforget, hmachine, hbefore, _, hbegin,
    hmachine, hafter⟩

end Engine
end ZMachine
