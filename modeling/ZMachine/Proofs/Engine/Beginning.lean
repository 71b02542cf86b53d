import ZMachine.Engine
import ZMachine.Proofs.Execution.Course

/-!
# The beginning of an event

Handling an event begins with a part of its own, and then the story runs:

    handleWithin units envelope = if ← begin envelope then run units else return []

A load replaces the story and a restart the machine.  The other events are inputs: only a machine
that is running takes them, and what they do to it is a chain of small changes, among them at most a
save that is put in force.  None of these changes what the machine is made of.
-/

namespace ZMachine

/-! ## What a machine is made of -/

namespace Machine

/-- What stays the same from the start of a machine to its end. -/
def origin (s : Machine) : Header × Memory × Nat :=
  (s.header, s.story, s.memory.size)

/-- The header is that of the story, and the memory has the size of the story. -/
def Sound (s : Machine) : Prop :=
  Header.parse s.story = .ok s.header ∧ s.memory.size = s.story.size

theorem Sound.of_origin {s s' : Machine} (h : s.Sound) (ho : s'.origin = s.origin) : s'.Sound := by
  simp only [origin, Prod.mk.injEq] at ho
  obtain ⟨hheader, hstory, hsize⟩ := ho
  unfold Sound
  rw [hheader, hstory, hsize]
  exact h

/-- Machines of one story have one header. -/
theorem Sound.header_eq {s s' : Machine} (h : s.Sound) (h' : s'.Sound)
    (hstory : s.story = s'.story) : s.header = s'.header := by
  have hparse := h.1
  rw [hstory, h'.1] at hparse
  exact (Except.ok.inj hparse).symm

/-- Machines of one story are alike in what stays the same, if both run. -/
theorem Sound.identity_eq {s s' : Machine} (h : s.Sound) (h' : s'.Sound)
    (hstory : s.story = s'.story) (hhalted : s.halted = s'.halted) : s.identity = s'.identity := by
  have hsize : s.memory.size = s'.memory.size := by
    rw [h.2, h'.2, hstory]
  unfold identity
  rw [h.header_eq h' hstory, hstory, hhalted, hsize]

theorem origin_of_identity {s s' : Machine} (h : s'.identity = s.identity) :
    s'.origin = s.origin :=
  congrArg (fun i => (i.1, i.2.1, i.2.2.2)) h

theorem carryFlags_keeps_size (previous : Memory) : Keeps Memory.size (Header.carryFlags previous) :=
  keeps_bind (keeps_liftOutOfRange _) (fun _ => Memory.write8_keeps_size _ _)

/-- A machine that starts is sound, is made from the story and is not halted, and its stack is
empty. -/
theorem start_eq_ok {story : Memory} {previous : Option Memory} {s : Machine}
    (h : start story previous = .ok s) :
    s.Sound ∧ s.story = story ∧ s.halted = false ∧ s.stack = {} := by
  unfold start at h
  cases hheader : Header.parse story with
  | error e =>
    rw [hheader] at h
    cases h
  | ok header =>
    rw [hheader] at h
    cases previous with
    | none =>
      cases h
      exact ⟨⟨hheader, rfl⟩, rfl, rfl, rfl⟩
    | some p =>
      have hsize := carryFlags_keeps_size p story
      cases hcarry : Header.carryFlags p story with
      | error e m =>
        simp only [hcarry] at h
        cases h
      | ok u memory =>
        rw [hcarry] at hsize
        simp only [hcarry] at h
        cases h
        exact ⟨⟨hheader, hsize⟩, rfl, rfl, rfl⟩

/-! ## Save data -/

/-- The snapshot in save data, if the machine can be put back to it. -/
def readSave? (s : Machine) (bytes : List UInt8) : Option Snapshot :=
  match Snapshot.decode bytes s.story with
  | .ok p => if p.belongsTo s.header = true ∧ p.memory.size = s.memory.size then some p else none
  | .error _ => none

theorem readSave?_of_identity {s s' : Machine} (h : s'.identity = s.identity)
    (bytes : List UInt8) : s'.readSave? bytes = s.readSave? bytes := by
  simp only [identity, Prod.mk.injEq] at h
  obtain ⟨hheader, hstory, -, hsize⟩ := h
  unfold readSave?
  rw [hheader, hstory, hsize]

theorem size_of_readSave? {s : Machine} {bytes : List UInt8} {p : Snapshot}
    (h : s.readSave? bytes = some p) : p.memory.size = s.memory.size := by
  unfold readSave? at h
  split at h
  · next q hdecode =>
    split at h
    · next hfits =>
      cases h
      exact hfits.2
    · cases h
  · cases h

/-- A save that can be used is put in force as a whole; any other one is refused. -/
theorem applySave_run (bytes : List UInt8) (s : Machine) :
    match s.readSave? bytes with
    | some p => Engine.applySave bytes s = .ok p.storer (p.onto s)
    | none => ∃ fault, Engine.applySave bytes s = .error fault s := by
  unfold readSave? Engine.applySave
  rw [get_bind]
  cases hdecode : Snapshot.decode bytes s.story with
  | error fault => exact ⟨_, rfl⟩
  | ok p =>
    dsimp only
    rcases p.apply_cases s with ⟨fault, hfits, hrefused⟩ | ⟨hfits, happlied⟩
    · rw [if_neg hfits]
      exact ⟨fault, bind_error hrefused⟩
    · rw [if_pos hfits]
      exact bind_ok happlied

/-- Save data that cannot be used count as none. -/
theorem tryApplySave_run (bytes : List UInt8) (s : Machine) :
    (try some <$> Engine.applySave bytes catch _ => pure none :
        MachineM (Option (Option Variable))) s =
      match s.readSave? bytes with
      | some p => .ok (some p.storer) (p.onto s)
      | none => .ok none s := by
  have happly := applySave_run bytes s
  show EStateM.tryCatch (EStateM.map some (Engine.applySave bytes)) _ s = _
  unfold EStateM.tryCatch EStateM.map
  cases hp : s.readSave? bytes with
  | none =>
    rw [hp] at happly
    obtain ⟨fault, hrefused⟩ := happly
    rw [hrefused]
    rfl
  | some p =>
    rw [hp] at happly
    dsimp only at happly
    rw [happly]

end Machine

/-! ## Inputs -/

namespace Event

/-- Events that only a running machine takes. -/
def isInput : Event → Bool
  | .load _ | .restart => false
  | .restore .. | .read _ | .char .. | .resume _ => true

/-- The save that an event asks to go back to. -/
def save? : Event → Option (List UInt8)
  | .restore data _ => data
  | _ => none

end Event

namespace Engine

/-- The story, the blocks and the identity of the machine. -/
def core (e : Engine) : Option Memory × Cache × Option (Header × Memory × Bool × Nat) :=
  (e.story, e.cache, e.machine.map Machine.identity)

/-- How an input changes an engine, if it comes with the save `data`. -/
inductive Change (data : Option (List UInt8)) : Engine → Engine → Prop
  | machine {e : Engine} {s s' : Machine} (hs : e.machine = some s) (h : s.Change s') :
      Change data e { e with machine := some s' }
  | window {e : Engine} (w : Window) : Change data e { e with window := w }
  | journal {e : Engine} (j : Journal) : Change data e { e with journal := j }
  | back {e : Engine} {s : Machine} {bytes : List UInt8} {p : Snapshot} (hs : e.machine = some s)
      (hdata : data = some bytes) (hp : s.readSave? bytes = some p) :
      Change data e { e with machine := some (p.onto s) }

variable {α : Type} {data : Option (List UInt8)}

theorem Change.core_eq {e e' : Engine} (h : Change data e e') : e'.core = e.core := by
  cases h with
  | machine hs hc =>
    unfold core
    rw [hs]
    exact congrArg (fun setting => (e.story, e.cache, some setting.1)) hc.setting_eq
  | back hs hdata hp =>
    unfold core
    rw [hs]
    exact congrArg (fun i => (e.story, e.cache, some i))
      (Snapshot.identity_onto (Machine.size_of_readSave? hp))
  | window | journal => rfl

theorem onMachine_run {e : Engine} {s : Machine} (h : e.machine = some s) (action : MachineM α) :
    onMachine action e = match action s with
      | .ok a machine => .ok a { e with machine := some machine }
      | .error fault machine => .error fault { e with machine := some machine } := by
  obtain ⟨config, story, machine, cache, undo, window, entropy, journal⟩ := e
  cases h
  rfl

/-- A sequence that completes goes on with the machine that its first action left. -/
theorem onMachine_bind_eq_ok {β : Type} {e e' : Engine} {s : Machine} (hs : e.machine = some s)
    {action : MachineM α} {g : α → EngineM β} {b : β}
    (h : (onMachine action >>= g) e = .ok b e') :
    ∃ a s', action s = .ok a s' ∧ g a { e with machine := some s' } = .ok b e' := by
  obtain ⟨a, e₁, hfirst, hrest⟩ := bind_eq_ok h
  rw [onMachine_run hs] at hfirst
  cases haction : action s with
  | ok c s' =>
    rw [haction] at hfirst
    cases hfirst
    exact ⟨a, s', rfl, hrest⟩
  | error fault s' =>
    rw [haction] at hfirst
    cases hfirst

theorem onMachine_none {e : Engine} (h : e.machine = none) (action : MachineM α) :
    onMachine action e = .error .notStarted e := by
  obtain ⟨config, story, machine, cache, undo, window, entropy, journal⟩ := e
  cases h
  rfl

theorem endState_onMachine {e : Engine} {s : Machine} (h : e.machine = some s)
    (action : MachineM α) :
    endState (onMachine action e) = { e with machine := some (endState (action s)) } := by
  rw [onMachine_run h]
  cases action s <;> rfl

theorem with_machine {e : Engine} {s : Machine} (h : e.machine = some s) :
    { e with machine := some s } = e := by
  rw [← h]

theorem note_makes (r : Record) : Makes (Change data) (note r) :=
  makes_modify (fun _ => .journal _)

theorem onMachine_makes {action : MachineM α} (h : Makes Machine.Change action) :
    Makes (Change data) (onMachine action) := by
  intro e
  cases hmachine : e.machine with
  | none =>
    rw [onMachine_none hmachine]
    exact .refl
  | some s =>
    rw [endState_onMachine hmachine]
    have hstep (s s' : Machine) (hs : s.Change s') :
        Change data { e with machine := some s } { e with machine := some s' } :=
      .machine rfl hs
    have hsteps := h.lift _ hstep s
    rwa [with_machine hmachine] at hsteps

theorem checkRunning_makes : Makes (Change data) checkRunning := by
  refine onMachine_makes (leads_bind leads_get (fun s => ?_))
  exact leads_ite (fun _ => leads_throw _) (fun _ => leads_pure ())

theorem tryApplySave_makes (bytes : List UInt8) :
    Makes (Change (some bytes))
      (onMachine (try some <$> applySave bytes catch _ => pure none)) := by
  intro e
  cases hmachine : e.machine with
  | none =>
    rw [onMachine_none hmachine]
    exact .refl
  | some s =>
    rw [endState_onMachine hmachine, Machine.tryApplySave_run]
    cases hp : s.readSave? bytes with
    | none =>
      show Relation.ReflTransGen (Change (some bytes)) e { e with machine := some s }
      rw [with_machine hmachine]
    | some p => exact .single (.back hmachine rfl hp)

theorem restore_makes (data : Option (List UInt8)) (storer : Option Variable) :
    Makes (Change data) (restore data storer) := by
  unfold restore
  refine leads_bind checkRunning_makes (fun _ => ?_)
  cases data with
  | none => exact onMachine_makes (Machine.store_makes storer 0)
  | some bytes =>
    refine leads_bind (tryApplySave_makes bytes) (fun found => ?_)
    cases found with
    | none =>
      exact leads_bind (note_makes _) (fun _ => onMachine_makes (Machine.store_makes storer 0))
    | some target =>
      refine leads_bind leads_get (fun e => ?_)
      exact leads_bind (onMachine_makes (Machine.syncHeader_makes e.config))
        (fun _ => onMachine_makes (Machine.store_makes target 2))

theorem lineInput_makes (lower : String → String) (i : LineInput) :
    Makes (Change data) (lineInput lower i) := by
  unfold lineInput
  refine leads_bind checkRunning_makes (fun _ => ?_)
  refine leads_bind (onMachine_makes (Machine.writeVar_makes _ _)) (fun _ => ?_)
  refine leads_bind (makes_modify (fun _ => .window _)) (fun _ => ?_)
  refine leads_bind (onMachine_makes (Machine.ask_makes _)) (fun extra => ?_)
  dsimp only
  have hstore : Makes (Change data) (do
      let zscii := (extra.encode (lower i.response)).take i.length.toNat
      let buffer := i.buffer.toNat
      onMachine (Machine.onMemory (Memory.write8 (buffer + 1) (.ofNat zscii.length)))
      onMachine (Machine.onMemory (Memory.writeBytes (buffer + 2) zscii))
      if i.parse ≠ 0 then
        onMachine do
          let h := (← get).header
          Machine.onMemory (tokenise h buffer i.parse.toNat 0 false)
        note .lineSplit : EngineM Unit) := by
    dsimp only
    refine leads_bind (onMachine_makes
      (Machine.onMemory_makes (Memory.write8_keeps_size _ _))) (fun _ => ?_)
    refine leads_bind (onMachine_makes
      (Machine.onMemory_makes (Memory.writeBytes_keeps_size _ _))) (fun _ => ?_)
    refine leads_ite (fun _ => ?_) (fun _ => leads_pure ())
    refine leads_bind (onMachine_makes (leads_bind leads_get (fun s => ?_)))
      (fun _ => note_makes _)
    exact Machine.onMemory_makes (tokenise_keeps_size s.header _ _ _ _)
  exact leads_ite (fun _ => leads_bind (note_makes _) (fun _ => hstore)) (fun _ => hstore)

theorem charInput_makes (key : Key) (storer : Variable) :
    Makes (Change data) (charInput key storer) := by
  unfold charInput
  refine leads_bind checkRunning_makes (fun _ => ?_)
  refine leads_bind (onMachine_makes (Machine.ask_makes _)) (fun code => ?_)
  exact onMachine_makes (Machine.writeVar_makes storer code)

theorem resume_makes (result : Option StoreResult) : Makes (Change data) (resume result) := by
  unfold resume
  refine leads_bind checkRunning_makes (fun _ => ?_)
  cases result with
  | none => exact leads_pure ()
  | some r => exact onMachine_makes (Machine.writeVar_makes r.storer r.value)

section
variable {event : Event} (hinput : event.isInput = true)
include hinput

/-- An input makes sure that the machine is running, and the story runs after it. -/
theorem take_input : ∃ x : EngineM Unit, take event = (do checkRunning; x; return true) := by
  cases event with
  | load | restart => cases hinput
  | restore data storer => exact ⟨_, bind_assoc _ _ _⟩
  | read i => exact ⟨_, bind_assoc _ _ _⟩
  | char key storer => exact ⟨_, bind_assoc _ _ _⟩
  | resume result => exact ⟨_, bind_assoc _ _ _⟩

theorem take_makes : Makes (Change event.save?) (take event) := by
  cases event with
  | load | restart => cases hinput
  | restore data storer => exact leads_bind (restore_makes data storer) (fun _ => leads_pure true)
  | read i => exact leads_bind (lineInput_makes _ i) (fun _ => leads_pure true)
  | char key storer => exact leads_bind (charInput_makes key storer) (fun _ => leads_pure true)
  | resume result => exact leads_bind (resume_makes result) (fun _ => leads_pure true)

theorem take_keeps_core : Keeps core (take event) :=
  (take_makes hinput).keeps (fun _ _ h => h.core_eq)

end

theorem checkRunning_eq_ok {e e' : Engine} {u : Unit} (h : checkRunning e = .ok u e') :
    ∃ s, e.machine = some s ∧ s.halted = false := by
  unfold checkRunning at h
  cases hmachine : e.machine with
  | none =>
    rw [onMachine_none hmachine] at h
    cases h
  | some s =>
    refine ⟨s, rfl, ?_⟩
    cases hhalted : s.halted with
    | false => rfl
    | true =>
      rw [onMachine_run hmachine, get_bind, hhalted] at h
      cases h

theorem checkRunning_of_running {e : Engine} {s : Machine} (hs : e.machine = some s)
    (hrunning : s.halted = false) : checkRunning e = .ok () e := by
  obtain ⟨config, story, machine, cache, undo, window, entropy, journal⟩ := e
  cases hs
  unfold checkRunning
  rw [onMachine_run rfl, get_bind, hrunning]
  rfl

theorem checkRunning_of_halted {e : Engine} {s : Machine} (hs : e.machine = some s)
    (hhalted : s.halted = true) : checkRunning e = .error .halted e := by
  obtain ⟨config, story, machine, cache, undo, window, entropy, journal⟩ := e
  cases hs
  unfold checkRunning
  rw [onMachine_run rfl, get_bind, hhalted]
  rfl

/-- A save that can be used is put in force before the header is brought up to date and the result
is stored. -/
theorem restore_of_readSave? {e : Engine} {s : Machine} {bytes : List UInt8} {p : Snapshot}
    (hs : e.machine = some s) (hrunning : s.halted = false) (hp : s.readSave? bytes = some p)
    (storer : Option Variable) :
    restore (some bytes) storer e = (do
      onMachine (Machine.syncHeader e.config)
      onMachine (Machine.store p.storer 2)) { e with machine := some (p.onto s) } := by
  have htry : onMachine (try some <$> applySave bytes catch _ => pure none) e =
      .ok (some p.storer) { e with machine := some (p.onto s) } := by
    rw [onMachine_run hs, Machine.tryApplySave_run, hp]
  unfold restore
  rw [bind_ok (checkRunning_of_running hs hrunning)]
  dsimp only
  rw [bind_ok htry]
  dsimp only
  rw [get_bind]

/-! ## Restarting and loading -/

/-- The machine that a restart makes. -/
def fresh (e : Engine) : Except Fault Machine :=
  match e.story with
  | none => .error .noStory
  | some story => Machine.start story (e.machine.map (·.memory))

/-- An engine whose machine has just been made. -/
def install (s : Machine) (e : Engine) : Engine :=
  { e with
    machine := some s
    undo := e.undo.clear
    window := {}
    journal := e.journal.note .machineReady }

/-- Without a machine nothing has happened. -/
theorem restart_of_not_fresh {e : Engine} {fault : Fault} (h : e.fresh = .error fault) :
    restart e = .error fault e := by
  unfold fresh at h
  unfold restart
  rw [get_bind]
  cases hstory : e.story with
  | none =>
    rw [hstory] at h
    cases h
    rfl
  | some story =>
    rw [hstory] at h
    dsimp only at h ⊢
    rw [h]
    rfl

/-- The machine is in its place before its header is brought up to date. -/
theorem restart_of_fresh {e : Engine} {s : Machine} (h : e.fresh = .ok s) :
    restart e = onMachine (Machine.syncHeader e.config) (e.install s) := by
  unfold fresh at h
  unfold restart
  rw [get_bind]
  cases hstory : e.story with
  | none =>
    rw [hstory] at h
    cases h
  | some story =>
    rw [hstory] at h
    dsimp only at h ⊢
    rw [h]
    unfold install
    rw [hstory]
    rfl

theorem fresh_eq_ok {e : Engine} {s : Machine} (h : e.fresh = .ok s) :
    s.Sound ∧ e.story = some s.story ∧ s.halted = false ∧ s.stack = {} := by
  unfold fresh at h
  cases hstory : e.story with
  | none =>
    rw [hstory] at h
    cases h
  | some story =>
    rw [hstory] at h
    obtain ⟨hsound, hof, hrest⟩ := Machine.start_eq_ok h
    exact ⟨hsound, by rw [hof], hrest⟩

theorem syncHeader_identity (c : Config) (s : Machine) :
    (endState (Machine.syncHeader c s)).identity = s.identity :=
  (Machine.syncHeader_makes c).keeps (fun _ _ h => congrArg Prod.fst h.setting_eq) s

/-- A restart that gets as far as a machine has put it in place, however it ends. -/
theorem restart_cases (e : Engine) :
    (∃ fault, e.fresh = .error fault ∧ restart e = .error fault e) ∨
      ∃ s, e.fresh = .ok s ∧ endState (restart e) =
        { e.install s with machine := some (endState (Machine.syncHeader e.config s)) } := by
  cases hfresh : e.fresh with
  | error fault => exact .inl ⟨fault, rfl, restart_of_not_fresh hfresh⟩
  | ok s =>
    refine .inr ⟨s, rfl, ?_⟩
    rw [restart_of_fresh hfresh, endState_onMachine rfl]

theorem load_cases (data : List UInt8) (e : Engine) :
    (load data e).machine = e.machine ∧ (load data e).story = some (Memory.ofList data) ∧
      ((load data e).story = e.story ∧ (load data e).cache = e.cache ∨
        ∀ pc : UInt32, (load data e).cache.blocks[pc]? = none) := by
  unfold load
  dsimp only
  by_cases hdrop : e.story ≠ some (Memory.ofList data) ∧ (!e.cache.isEmpty) = true
  · rw [if_pos hdrop]
    refine ⟨rfl, rfl, .inr fun pc => ?_⟩
    simp [Cache.clear]
  · rw [if_neg hdrop]
    refine ⟨rfl, rfl, ?_⟩
    by_cases hstory : e.story = some (Memory.ofList data)
    · exact .inl ⟨hstory.symm, rfl⟩
    · right
      intro pc
      have hempty : e.cache.blocks.isEmpty = true := by
        simpa [hstory, Cache.isEmpty] using hdrop
      exact Std.TreeMap.getElem?_of_isEmpty hempty

theorem load_undo (data : List UInt8) (e : Engine) : (load data e).undo = e.undo := by
  unfold load
  dsimp only
  split <;> rfl

/-! ## Beginning -/

/-- The part of an event before the story runs; answers whether it is to run. -/
def begin (envelope : Envelope) : EngineM Bool := do
  modify (prepare envelope.env)
  note .eventTaken
  take envelope.event

/-- The engine made ready for an event. -/
def ready (envelope : Envelope) (e : Engine) : Engine :=
  { prepare envelope.env e with journal := (prepare envelope.env e).journal.note .eventTaken }

theorem begin_run (envelope : Envelope) (e : Engine) :
    begin envelope e = take envelope.event (ready envelope e) :=
  rfl

theorem ready_kept (envelope : Envelope) (e : Engine) :
    (ready envelope e).machine = e.machine ∧ (ready envelope e).story = e.story ∧
      (ready envelope e).cache = e.cache := by
  unfold ready prepare
  cases envelope.env <;> exact ⟨rfl, rfl, rfl⟩

theorem ready_core (envelope : Envelope) (e : Engine) : (ready envelope e).core = e.core := by
  obtain ⟨hmachine, hstory, hcache⟩ := ready_kept envelope e
  unfold core
  rw [hmachine, hstory, hcache]

theorem fresh_ready (envelope : Envelope) (e : Engine) : (ready envelope e).fresh = e.fresh := by
  obtain ⟨hmachine, hstory, -⟩ := ready_kept envelope e
  unfold fresh
  rw [hmachine, hstory]

/-- The undo history when an event begins: new settings may leave room for fewer checkpoints. -/
theorem ready_undo (envelope : Envelope) (e : Engine) :
    (ready envelope e).undo =
      envelope.env.elim e.undo (fun p => e.undo.setDepth (e.config.apply p).undoDepth) := by
  unfold ready prepare
  cases envelope.env <;> rfl

theorem handleWithin_eq (units : Config → Nat) (envelope : Envelope) :
    handleWithin units envelope = (do
      if ← begin envelope then run (units (← get).config)
      else return []) := by
  unfold handleWithin begin
  simp only [bind_assoc]

/-- A fault before the story runs ends the event. -/
theorem handleWithin_of_fault {envelope : Envelope} {e e' : Engine} {fault : Fault}
    (h : begin envelope e = .error fault e') (units : Config → Nat) :
    handleWithin units envelope e = .error fault e' := by
  rw [handleWithin_eq]
  exact bind_error h

theorem begin_keeps_core {envelope : Envelope} (hinput : envelope.event.isInput = true) :
    Keeps core (begin envelope) := by
  intro e
  rw [begin_run, take_keeps_core hinput, ready_core]

/-- A machine that is halted takes no input. -/
theorem begin_of_halted {envelope : Envelope} {e : Engine} {s : Machine} (hs : e.machine = some s)
    (hhalted : s.halted = true) (hinput : envelope.event.isInput = true) :
    begin envelope e = .error .halted (ready envelope e) := by
  obtain ⟨x, hx⟩ := take_input hinput
  rw [begin_run, hx]
  exact bind_error (checkRunning_of_halted ((ready_kept envelope e).1.trans hs) hhalted)

theorem begin_restart (env : Option Patch) (e : Engine) :
    begin ⟨.restart, env⟩ e =
      (do restart; return true : EngineM Bool) (ready ⟨.restart, env⟩ e) :=
  rfl

theorem endState_begin_restart (env : Option Patch) (e : Engine) :
    endState (begin ⟨.restart, env⟩ e) = endState (restart (ready ⟨.restart, env⟩ e)) := by
  rw [begin_restart]
  cases hr : restart (ready ⟨.restart, env⟩ e) with
  | ok a e' => rw [bind_ok hr]; rfl
  | error fault e' => rw [bind_error hr]; rfl

/-- What becomes of the machine, the story and the blocks before the story runs: a load can replace
the story and then drops all blocks, a restart can replace the machine, and nothing else does. -/
theorem begin_cases (envelope : Envelope) (e : Engine) :
    (∃ data e', begin envelope e = .ok false e' ∧ e'.machine = e.machine ∧
        e'.story = some (Memory.ofList data) ∧
        (e'.story = e.story ∧ e'.cache = e.cache ∨ ∀ pc : UInt32, e'.cache.blocks[pc]? = none)) ∨
      (∃ story s, e.story = some story ∧ s.Sound ∧ s.story = story ∧
        (endState (begin envelope e)).machine = some s ∧
        (endState (begin envelope e)).story = e.story ∧
        (endState (begin envelope e)).cache = e.cache) ∨
      (endState (begin envelope e)).core = e.core := by
  obtain ⟨hmachine, hstory, hcache⟩ := ready_kept envelope e
  obtain ⟨event, env⟩ := envelope
  cases event with
  | load data =>
    left
    have hload := load_cases data (ready ⟨.load data, env⟩ e)
    rw [hmachine, hstory, hcache] at hload
    exact ⟨data, load data (ready ⟨.load data, env⟩ e), rfl, hload⟩
  | restart =>
    right
    rw [endState_begin_restart]
    rcases restart_cases (ready ⟨.restart, env⟩ e) with ⟨fault, -, hsame⟩ | ⟨s, hfresh, hend⟩
    · right
      rw [hsame, endState_error, ready_core]
    · left
      obtain ⟨hsound, hloaded, -⟩ := fresh_eq_ok hfresh
      have hidentity := syncHeader_identity (ready ⟨.restart, env⟩ e).config s
      rw [hstory] at hloaded
      rw [hend]
      exact ⟨s.story, _, hloaded, hsound.of_origin (Machine.origin_of_identity hidentity),
        congrArg (·.2.1) hidentity, rfl, hstory, hcache⟩
  | restore | read | char | resume => exact .inr (.inr (begin_keeps_core rfl e))

/-- The story runs on a machine that is not halted. -/
theorem begin_running {envelope : Envelope} {e e' : Engine} (h : begin envelope e = .ok true e') :
    ∃ s, e'.machine = some s ∧ s.halted = false := by
  have hinput (hinput : envelope.event.isInput = true) :
      ∃ s, e'.machine = some s ∧ s.halted = false := by
    have hcore := (begin_keeps_core hinput).of_ok h
    rw [← ready_core envelope e] at hcore
    obtain ⟨x, hx⟩ := take_input hinput
    rw [begin_run, hx] at h
    obtain ⟨u, e'', hcheck, -⟩ := bind_eq_ok h
    obtain ⟨s, hs, hrunning⟩ := checkRunning_eq_ok hcheck
    simp only [core, hs, Prod.mk.injEq] at hcore
    obtain ⟨s', hs', hsame⟩ := Option.map_eq_some_iff.1 hcore.2.2
    exact ⟨s', hs', hrunning ▸ congrArg (·.2.2.1) hsame⟩
  obtain ⟨event, env⟩ := envelope
  cases event with
  | load data => cases h
  | restart =>
    have hend := endState_begin_restart env e
    rw [h] at hend
    rw [begin_restart] at h
    obtain ⟨u, e'', hrestart, -⟩ := bind_eq_ok h
    rcases restart_cases (ready ⟨.restart, env⟩ e) with ⟨fault, -, hfault⟩ | ⟨s, hfresh, hlast⟩
    · rw [hfault] at hrestart
      cases hrestart
    · rw [hlast] at hend
      obtain ⟨-, -, hrunning, -⟩ := fresh_eq_ok hfresh
      have hidentity := syncHeader_identity (ready ⟨.restart, env⟩ e).config s
      exact ⟨_, congrArg Engine.machine hend, hrunning ▸ congrArg (·.2.2.1) hidentity⟩
  | restore | read | char | resume => exact hinput rfl

end Engine
end ZMachine
