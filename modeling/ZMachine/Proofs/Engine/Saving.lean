import ZMachine.Proofs.Engine.Coherence
import ZMachine.Proofs.Header
import ZMachine.Proofs.Snapshot.Limits

/-!
# Saving and restoring

A save hands the host the machine as the instruction found it.  Whatever is played afterwards, a
restore with that data puts this machine back, brings its header up to date, stores 2 where the save
stores its result, and runs on:

    saved = the machine after the save instruction was read
    restore = run from (syncHeader, then store 2) saved

The header can be brought up to date just if `FlagsFit` says so.  A story for which it does not
cannot be restarted, but its machine is there all the same and can be resumed.
-/

namespace ZMachine

/-! ## The save instruction -/

namespace Instruction

/-- The machine as an instruction finds it: the pc is at the next one. -/
def finds (i : Instruction) (c : Context) : Machine :=
  { c.machine with pc := i.next }

/-- A save without operands asks the host to keep the machine it finds. -/
theorem proceed_save (config : Config) {i : Instruction} {c : Context} {data : List UInt8}
    (hop : i.opcode = .save) (hoperands : i.operands = [])
    (hdata : (Snapshot.capture (i.finds c) i.store).encode c.machine.story = .ok data) :
    i.proceed config c = .ok () { c with
      machine := i.finds c
      control := some (.save data i.store)
      journal := c.journal.note .controlAsked } := by
  have hvalues : operandValues [] = (return [] : Exec (List UInt16)) := rfl
  have hnothing : isAboutNothing i.opcode [] = false := by
    rw [hop]
    rfl
  rw [proceed_run]
  unfold step
  rw [hoperands, hvalues, pure_bind, hnothing, if_neg (by decide)]
  unfold perform
  rw [hop]
  dsimp only
  rw [if_neg (by decide), get_bind]
  have hencode : (Snapshot.capture { c.machine with pc := i.next } i.store).encode
      c.machine.story = .ok data := hdata
  dsimp only
  rw [hencode]
  rfl

end Instruction

namespace Block

theorem executeAll_append (config : Config) (before rest : List Instruction) :
    executeAll config (before ++ rest) = (do
      executeAll config before
      executeAll config rest) := by
  induction before with
  | nil => rfl
  | cons i before ih => rw [List.cons_append, executeAll_cons, executeAll_cons, ih, bind_assoc]

theorem executeAll_singleton (config : Config) (i : Instruction) :
    executeAll config [i] = i.proceed config := by
  rw [executeAll_cons]
  exact bind_pure (i.proceed config)

/-- Nothing comes after an instruction that ends a unit. -/
theorem compile_eq_last {m : Memory} {pc : UInt32} {b : Block} (h : compile m pc = .ok b)
    {before rest : List Instruction} {i : Instruction} (hi : b.instructions = before ++ i :: rest)
    (hends : i.opcode.endsUnit = true) : rest = [] := by
  obtain ⟨-, first, -, hline⟩ := compile_eq_ok h
  cases rest with
  | nil => rfl
  | cons j more =>
    have hmem : i ∈ (straightLine m (maxLength - 1) first).dropLast := by
      rw [← hline, hi, List.dropLast_append_of_ne_nil (List.cons_ne_nil _ _),
        List.dropLast_cons_cons]
      simp
    rw [straightLine_inner m _ first i hmem] at hends
    cases hends

end Block

/-- Executing the block of a fetch gets to a save without operands, in the context `c`. -/
structure Fetch.Saves (f : Fetch) (i : Instruction) (c : Context) : Prop where
  opcode : i.opcode = .save
  operands : i.operands = []
  reached : ∃ before rest, f.block.instructions = before ++ i :: rest ∧
    Block.executeAll f.config before f.context = .ok () c

namespace Fetch.Saves

variable {f : Fetch} {i : Instruction} {c : Context}

/-- A save that a block starts with is reached. -/
theorem of_first {rest : List Instruction} (hblock : f.block.instructions = i :: rest)
    (hop : i.opcode = .save) (hoperands : i.operands = []) : f.Saves i f.context :=
  ⟨hop, hoperands, [], rest, hblock, rfl⟩

theorem identity (h : f.Saves i c) : c.machine.identity = f.machine.identity := by
  obtain ⟨before, -, -, hbefore⟩ := h.reached
  exact (Run.executeAll_keeps_identity f.config before).of_ok hbefore

/-- A block that gets to a save asks the host to keep the machine. -/
theorem execute {log : List Fetch} (h : f.Saves i c) (haccounted : f.Accounted log)
    {data : List UInt8}
    (hdata : (Snapshot.capture (i.finds c) i.store).encode c.machine.story = .ok data) :
    ∃ last, f.block.execute f.config f.context = .ok () last ∧
      last.control = some (.save data i.store) := by
  obtain ⟨before, rest, hblock, hbefore⟩ := h.reached
  obtain ⟨m, hcompile⟩ := haccounted.compiled
  have hends : i.opcode.endsUnit = true := by
    rw [h.opcode]
    rfl
  obtain rfl := Block.compile_eq_last hcompile hblock hends
  have hsave := i.proceed_save f.config h.opcode h.operands hdata
  unfold Block.execute
  rw [hblock, Block.executeAll_append, bind_ok hbefore, Block.executeAll_singleton, hsave]
  exact ⟨_, rfl, rfl⟩

end Fetch.Saves

/-- A turn ends with what its block asks the host for. -/
theorem Run.turn_of_control {config : Config} {start next : Run} {b : Block} {last : Context}
    {order : Order} (hfetch : fetch start = .ok b next)
    (hexecute : b.execute config next.context = .ok () last)
    (hcontrol : last.control = some order) (hquit : order ≠ .quit) :
    ∃ final, turn config start = .ok (some order) final := by
  have hrun := execute_run config b next
  rw [hexecute] at hrun
  unfold turn
  rw [bind_ok hfetch, bind_ok hrun]
  exact ⟨_, takeControl_some hcontrol hquit⟩

/-- An event whose run gets to a save closes its batch with that save. -/
theorem Engine.handleWithin_saves {log : List Fetch} {units : Config → Nat} {envelope : Envelope}
    {e : Engine} {f : Fetch} {i : Instruction} {c : Context} (hf : f ∈ fetches units envelope e)
    (hsaves : f.Saves i c) (haccounted : f.Accounted log) {data : List UInt8}
    (hdata : (Snapshot.capture (i.finds c) i.store).encode c.machine.story = .ok data) :
    ∃ orders e', handleWithin units envelope e = .ok (orders ++ [.save data i.store]) e' := by
  obtain ⟨e', r, hbegin, hrun, hf⟩ := mem_fetches hf
  obtain ⟨start, next, more, hfetch, hcontext, hconfig, -, hloop⟩ := Run.loop_of_fetches hf
  obtain ⟨last, hexecute, hcontrol⟩ := hsaves.execute haccounted hdata
  rw [hconfig, ← hcontext] at hexecute
  obtain ⟨final, hturn⟩ := Run.turn_of_control hfetch hexecute hcontrol (by simp)
  have hall : Run.loop e'.config (units e'.config) r = .ok (.save data i.store) final := by
    rw [hloop]
    exact bind_ok hturn
  rw [handleWithin_eq, bind_ok hbegin]
  show ∃ orders e'', run (units e'.config) e' = _
  rw [run_of_toRun? hrun, hall]
  exact ⟨_, _, rfl⟩

/-! ## Restoring -/

/-- A snapshot belongs to the story of the machine it was taken of. -/
theorem Snapshot.belongsTo_capture (s : Machine) (storer : Option Variable) :
    (capture s storer).belongsTo s.header = true := by
  simp [belongsTo, capture]

namespace Machine

/-- A save of another machine of the same story can be used. -/
theorem readSave?_capture {s saved : Machine} {data : List UInt8} {storer : Option Variable}
    (hidentity : s.identity = saved.identity)
    (hdecode : Snapshot.decode data s.story = .ok (.capture saved storer)) :
    s.readSave? data = some (.capture saved storer) := by
  have hstory : s.story = saved.story := congrArg (·.2.1) hidentity
  rw [readSave?_of_identity hidentity]
  unfold readSave?
  rw [← hstory, hdecode]
  exact if_pos ⟨Snapshot.belongsTo_capture saved storer, rfl⟩

/-- It puts that machine back, but for the random numbers. -/
theorem onto_capture {s saved : Machine} (hidentity : s.identity = saved.identity)
    (storer : Option Variable) :
    (Snapshot.capture saved storer).onto s = { saved with random := s.random } := by
  obtain ⟨memory, header, pc, stack, random, streams, story, halted⟩ := s
  simp only [identity, Prod.mk.injEq] at hidentity
  obtain ⟨rfl, rfl, rfl, -⟩ := hidentity
  rfl

/-- Bringing the header up to date forgets the random numbers. -/
theorem syncHeader_random (c : Config) (s : Machine) (random : Random) :
    syncHeader c { s with random } = syncHeader c s :=
  rfl

end Machine

namespace Engine

/-- A restore event goes on from the machine `saved`: its header is brought up to date and a 2 is
stored in `target`, then the story runs, unless the event ends with the fault of that store. -/
def RestoresTo (saved : Machine) (target : Option Variable) (units : Config → Nat)
    (envelope : Envelope) (e : Engine) : Prop :=
  let e' := ready envelope e
  ∃ memory : Memory,
    Machine.syncHeader e'.config saved = .ok () { saved with random := {}, memory } ∧
    memory.size = saved.memory.size ∧
    (∀ k, ¬ saved.header.IsCapability k → memory.bytes[k]? = saved.memory.bytes[k]?) ∧
    handleWithin units envelope e =
      match Machine.store target 2 { saved with random := {}, memory } with
      | .ok _ s' => run (units e'.config) { e' with machine := some s' }
      | .error fault s' => .error fault { e' with machine := some s' }

section

-- Data that stand for `saved` are given to an engine whose machine `s` runs the same story.
variable {e : Engine} {s saved : Machine} {data : List UInt8} {target : Option Variable}
  (hs : e.machine = some s) (hrunning : s.halted = false) (hidentity : s.identity = saved.identity)
  (hdecode : Snapshot.decode data s.story = .ok (.capture saved target))
include hs hrunning hidentity hdecode

/-- The machine is put back before its header is brought up to date and the result is stored. -/
theorem restore_capture (storer : Option Variable) :
    restore (some data) storer e = (do
      onMachine (Machine.syncHeader e.config)
      onMachine (Machine.store target 2)) { e with machine := some saved } := by
  have hsync : onMachine (Machine.syncHeader e.config)
      { e with machine := some { saved with random := s.random } } =
        onMachine (Machine.syncHeader e.config) { e with machine := some saved } := by
    rw [onMachine_run rfl, onMachine_run rfl, Machine.syncHeader_random]
  rw [restore_of_readSave? hs hrunning (Machine.readSave?_capture hidentity hdecode) storer,
    Machine.onto_capture hidentity]
  exact bind_of_eq hsync _

/-- A restore with such data goes on as far as the header and the store let it. -/
theorem handleWithin_restore (units : Config → Nat) (storer : Option Variable) (env : Option Patch) :
    let e' := ready ⟨.restore (some data) storer, env⟩ e
    handleWithin units ⟨.restore (some data) storer, env⟩ e = (do
      onMachine (Machine.syncHeader e'.config)
      onMachine (Machine.store target 2)
      run (units (← get).config)) { e' with machine := some saved } := by
  intro e'
  have hmachine : e'.machine = some s := (ready_kept _ e).1.trans hs
  have hrestore := restore_capture hmachine hrunning hidentity hdecode storer
  have hbegin : begin ⟨.restore (some data) storer, env⟩ e = (do
      onMachine (Machine.syncHeader e'.config)
      onMachine (Machine.store target 2)
      return true : EngineM Bool) { e' with machine := some saved } := by
    have := bind_of_eq hrestore (fun _ => (pure true : EngineM Bool))
    rwa [bind_assoc] at this
  rw [handleWithin_eq, bind_of_eq hbegin]
  simp only [bind_assoc, pure_bind]
  rfl

/-- If the header can be brought up to date, the restore goes on from the machine that was saved. -/
theorem restoresTo_of_fit (hsize : Layout.size ≤ saved.memory.size)
    (hfit : saved.header.FlagsFit saved.memory.size)
    (units : Config → Nat) (storer : Option Variable) (env : Option Patch) :
    RestoresTo saved target units ⟨.restore (some data) storer, env⟩ e := by
  unfold RestoresTo
  intro e'
  obtain ⟨memory, hsync, hmemory, hbytes⟩ := Machine.syncHeader_eq_ok hsize hfit e'.config
  refine ⟨memory, hsync, hmemory, hbytes, ?_⟩
  have hsynced : onMachine (Machine.syncHeader e'.config) { e' with machine := some saved } =
      .ok () { e' with machine := some { saved with random := {}, memory } } := by
    rw [onMachine_run rfl, hsync]
  rw [handleWithin_restore hs hrunning hidentity hdecode, bind_ok hsynced]
  cases hstore : Machine.store target 2 { saved with random := {}, memory } with
  | ok u s' =>
    have hstored : onMachine (Machine.store target 2)
        { e' with machine := some { saved with random := {}, memory } } =
          .ok u { e' with machine := some s' } := by
      rw [onMachine_run rfl, hstore]
    rw [bind_ok hstored]
    rfl
  | error fault s' =>
    have hstored : onMachine (Machine.store target 2)
        { e' with machine := some { saved with random := {}, memory } } =
          .error fault { e' with machine := some s' } := by
      rw [onMachine_run rfl, hstore]
    exact bind_error hstored

/-- If it cannot, the event ends with that fault. -/
theorem handleWithin_restore_of_not_fit (hsize : Layout.size ≤ saved.memory.size)
    (hfit : ¬ saved.header.FlagsFit saved.memory.size)
    (units : Config → Nat) (storer : Option Variable) (env : Option Patch) :
    ∃ s', handleWithin units ⟨.restore (some data) storer, env⟩ e =
      .error (.outOfRange
        ⟨saved.header.extensionAddress Layout.flags3Word, 2, saved.memory.size⟩)
        { ready ⟨.restore (some data) storer, env⟩ e with machine := some s' } := by
  obtain ⟨memory, hsync⟩ := Machine.syncHeader_eq_error hsize hfit
    (ready ⟨.restore (some data) storer, env⟩ e).config
  refine ⟨{ saved with random := {}, memory }, ?_⟩
  rw [handleWithin_restore hs hrunning hidentity hdecode]
  refine bind_error ?_
  rw [onMachine_run rfl, hsync]

end

/-! ## A save and a later restore -/

/-- A run that gets to a save hands over data that spell the machine it finds, which is sound, if its
numbers fit; every block is accounted for. -/
theorem save_handed_over {turns : List Turn} {config : Config} {entropy : Entropy} {t : Turn}
    {f : Fetch} {i : Instruction} {c : Context}
    (hf : f ∈ fetches t.1 t.2 (after turns (ofConfig config entropy))) (hsaves : f.Saves i c) :
    c.machine.Sound ∧ c.machine.halted = false ∧ ∃ data orders e log,
      handleWithin t.1 t.2 (after turns (ofConfig config entropy)) =
        .ok (orders ++ [.save data i.store]) e ∧
      Explained log e ∧
      ((Snapshot.capture (i.finds c) i.store).Fits c.machine.story →
        Snapshot.decode data c.machine.story = .ok (.capture (i.finds c) i.store)) := by
  have hbefore := (history_explained turns [] _ (ofConfig_explained config entropy)).2
  obtain ⟨hfetches, hafter⟩ := handleWithin_explained hbefore t.1 t.2
  obtain ⟨log, haccounted⟩ := hfetches.of_mem hf
  have hsound : c.machine.Sound :=
    haccounted.sound.of_origin (Machine.origin_of_identity hsaves.identity)
  have hrunning : c.machine.halted = false := by
    rw [← running_of_mem_fetches hf]
    exact congrArg (·.2.2.1) hsaves.identity
  have hencode := Snapshot.encode_eq_ok (.capture (i.finds c) i.store) c.machine.story hsound.2
  obtain ⟨orders, e, hhandle⟩ := handleWithin_saves hf hsaves haccounted hencode
  rw [hhandle] at hafter
  refine ⟨hsound, hrunning, _, orders, e, _, hhandle, hafter, fun hfits => ?_⟩
  obtain ⟨data, hdata, hdecode⟩ :=
    Snapshot.decode_encode (.capture (i.finds c) i.store) c.machine.story hsound.2 hfits
  rw [hencode] at hdata
  cases hdata
  exact hdecode

/-- Whatever was played since, a restore goes on from the machine that its data spell, as far as its
header can be brought up to date. -/
theorem Explained.restores {log : List Fetch} {e : Engine} (he : Explained log e) {saved : Machine}
    (hsound : saved.Sound) (hrunning : saved.halted = false) {target : Option Variable}
    {data : List UInt8} (hdecode : Snapshot.decode data saved.story = .ok (.capture saved target))
    (later : List Turn) {s : Machine} (hs : (after later e).machine = some s)
    (hsrunning : s.halted = false) (hstory : s.story = saved.story) (units : Config → Nat)
    (storer : Option Variable) (env : Option Patch) :
    let envelope : Envelope := ⟨.restore (some data) storer, env⟩
    (saved.header.FlagsFit saved.memory.size →
      RestoresTo saved target units envelope (after later e)) ∧
    (¬ saved.header.FlagsFit saved.memory.size →
      ∃ s', handleWithin units envelope (after later e) =
        .error (.outOfRange
          ⟨saved.header.extensionAddress Layout.flags3Word, 2, saved.memory.size⟩)
          { ready envelope (after later e) with machine := some s' }) := by
  have hssound : s.Sound := (history_explained later _ _ he).2.sound s hs
  have hidentity : s.identity = saved.identity :=
    hssound.identity_eq hsound hstory (hsrunning.trans hrunning.symm)
  have hlarge : Layout.size ≤ saved.memory.size := by
    rw [hsound.2]
    exact Header.size_of_parse hsound.1
  rw [← hstory] at hdecode
  constructor
  · intro hfit
    exact restoresTo_of_fit hs hsrunning hidentity hdecode hlarge hfit units storer env
  · intro hfit
    exact handleWithin_restore_of_not_fit hs hsrunning hidentity hdecode hlarge hfit units storer env

/-- A run that gets to a save without operands hands over the machine it finds.  If the numbers of
the snapshot fit, then whatever is played afterwards, a restore with that data goes on from that
machine, as long as one of the same story is running: its header is brought up to date, if that can
be done, and a 2 is stored where the save stores its result. -/
theorem restore_save (config : Config) (entropy : Entropy) (turns : List Turn) (t : Turn)
    (f : Fetch) (i : Instruction) (c : Context)
    (hf : f ∈ fetches t.1 t.2 (after turns (ofConfig config entropy))) (hsaves : f.Saves i c) :
    ∃ data orders e,
      handleWithin t.1 t.2 (after turns (ofConfig config entropy)) =
        .ok (orders ++ [.save data i.store]) e ∧
      ((Snapshot.capture (i.finds c) i.store).Fits c.machine.story →
        ∀ (later : List Turn) (s : Machine), (after later e).machine = some s →
          s.halted = false → s.story = c.machine.story →
          ∀ (units : Config → Nat) (storer : Option Variable) (env : Option Patch),
            let envelope : Envelope := ⟨.restore (some data) storer, env⟩
            (c.machine.header.FlagsFit c.machine.memory.size →
              RestoresTo (i.finds c) i.store units envelope (after later e)) ∧
            (¬ c.machine.header.FlagsFit c.machine.memory.size →
              ∃ s', handleWithin units envelope (after later e) =
                .error (.outOfRange
                  ⟨c.machine.header.extensionAddress Layout.flags3Word, 2, c.machine.memory.size⟩)
                  { ready envelope (after later e) with machine := some s' })) := by
  obtain ⟨hsound, hrunning, data, orders, e, log, hhandle, he, hdecode⟩ :=
    save_handed_over hf hsaves
  have hfinds : (i.finds c).Sound := hsound
  refine ⟨data, orders, e, hhandle, ?_⟩
  intro hfits later s hs hsrunning hstory units storer env
  exact he.restores hfinds hrunning (hdecode hfits) later hs hsrunning hstory units storer env

/-- For a machine within its limits nothing has to be asked of the numbers of the snapshot. -/
theorem restore_save_of_limits (config : Config) (entropy : Entropy) (turns : List Turn) (t : Turn)
    (f : Fetch) (i : Instruction) (c : Context)
    (hf : f ∈ fetches t.1 t.2 (after turns (ofConfig config entropy))) (hsaves : f.Saves i c)
    (hlimits : c.machine.WithinLimits) (hfit : c.machine.header.FlagsFit c.machine.memory.size) :
    ∃ data orders e,
      handleWithin t.1 t.2 (after turns (ofConfig config entropy)) =
        .ok (orders ++ [.save data i.store]) e ∧
      ∀ (later : List Turn) (s : Machine), (after later e).machine = some s →
        s.halted = false → s.story = c.machine.story →
        ∀ (units : Config → Nat) (storer : Option Variable) (env : Option Patch),
          RestoresTo (i.finds c) i.store units ⟨.restore (some data) storer, env⟩
            (after later e) := by
  obtain ⟨hsound, hrunning, data, orders, e, log, hhandle, he, hdecode⟩ :=
    save_handed_over hf hsaves
  have hfinds : (i.finds c).Sound := hsound
  have hlimits : (i.finds c).WithinLimits := ⟨hlimits.memory, hlimits.stack, hlimits.streams⟩
  refine ⟨data, orders, e, hhandle, ?_⟩
  intro later s hs hsrunning hstory units storer env
  have hread := hdecode (hlimits.fits i.store _)
  exact (he.restores hfinds hrunning hread later hs hsrunning hstory units storer env).1 hfit

/-! ## A story that saves -/

/-- A story of version 5 that saves, with the result in the first global, and then quits.  Its
header extension is said to have four words. -/
def savingStory (extension : List UInt8) : List UInt8 :=
  [5, 0, 0, 0, 0, 0, 0, 0x40, 0, 0, 0, 0, 0, 0x48, 0, 0x40] ++ List.replicate 38 0 ++ [0, 0x4A] ++
    List.replicate 8 0 ++ [0xBE, 0x00, 0xFF, 0x10, 0xBA, 0, 0, 0, 0, 0, 0, 4] ++ extension

/-- The save instruction of the story. -/
def savingInstruction : Instruction :=
  ⟨0x40, 0x44, .save, [], some ⟨16⟩, none, none⟩

/-- The story is loaded and started, but does not run yet. -/
def savingTurns (extension : List UInt8) : List Turn :=
  [(fun _ => 0, ⟨.load (savingStory extension), none⟩), (fun _ => 0, ⟨.restart, none⟩)]

/-- The story runs as far as the save. -/
def savingTurn : Turn :=
  (fun _ => 1, ⟨.resume none, none⟩)

theorem restore_save_extended :
    ∃ f ∈ fetches savingTurn.1 savingTurn.2
        (after (savingTurns (List.replicate 8 0)) (ofConfig {} ⟨0⟩)),
      f.Saves savingInstruction f.context ∧
      (Snapshot.capture (savingInstruction.finds f.context) savingInstruction.store).Fits
        f.context.machine.story ∧
      f.context.machine.header.FlagsFit f.context.machine.memory.size ∧
      ∃ data orders e,
        handleWithin savingTurn.1 savingTurn.2
          (after (savingTurns (List.replicate 8 0)) (ofConfig {} ⟨0⟩)) =
            .ok (orders ++ [.save data savingInstruction.store]) e ∧
        RestoresTo (savingInstruction.finds f.context) savingInstruction.store (fun _ => 1)
          ⟨.restore (some data) none, none⟩ (after (oneByOne [.restart]) e) := by
  have hfetch : ∃ f ∈ fetches savingTurn.1 savingTurn.2
      (after (savingTurns (List.replicate 8 0)) (ofConfig {} ⟨0⟩)),
        f.block.instructions = [savingInstruction] ∧
          (Snapshot.capture (savingInstruction.finds f.context) savingInstruction.store).Fits
          f.context.machine.story ∧
        f.context.machine.header.FlagsFit f.context.machine.memory.size ∧
        f.context.machine.story = .ofList (savingStory (List.replicate 8 0)) := by
    decide +kernel
  obtain ⟨f, hf, hblock, hfits, hfit, hstory⟩ := hfetch
  have hsaves : f.Saves savingInstruction f.context := .of_first hblock rfl rfl
  obtain ⟨data, orders, e, hhandle, hrestore⟩ := restore_save {} ⟨0⟩ _ savingTurn f
    savingInstruction f.context hf hsaves
  have he : e = endState (handleWithin savingTurn.1 savingTurn.2
      (after (savingTurns (List.replicate 8 0)) (ofConfig {} ⟨0⟩))) := by
    rw [hhandle]
    rfl
  have hlater : (after (oneByOne [.restart]) e).machine.map (fun s => (s.halted, s.story)) =
      some (false, .ofList (savingStory (List.replicate 8 0))) := by
    rw [he]
    decide +kernel
  obtain ⟨s, hs, hpair⟩ := Option.map_eq_some_iff.1 hlater
  rw [Prod.mk.injEq] at hpair
  exact ⟨f, hf, hsaves, hfits, hfit, data, orders, e, hhandle,
    (hrestore hfits (oneByOne [.restart]) s hs hpair.1 (hpair.2.trans hstory.symm)
      (fun _ => 1) none none).1 hfit⟩

/-- Where the extension ends with the story, the story can be saved but not restored. -/
theorem restore_save_not_always :
    ¬ ∀ (config : Config) (entropy : Entropy) (turns : List Turn) (t : Turn)
      (f : Fetch) (i : Instruction) (c : Context),
      f ∈ fetches t.1 t.2 (after turns (ofConfig config entropy)) → f.Saves i c →
      ∃ data orders e,
        handleWithin t.1 t.2 (after turns (ofConfig config entropy)) =
          .ok (orders ++ [.save data i.store]) e ∧
        ((Snapshot.capture (i.finds c) i.store).Fits c.machine.story →
          ∀ (later : List Turn) (s : Machine), (after later e).machine = some s →
            s.halted = false → s.story = c.machine.story →
            ∀ (units : Config → Nat) (storer : Option Variable) (env : Option Patch),
              RestoresTo (i.finds c) i.store units ⟨.restore (some data) storer, env⟩
                (after later e)) := by
  intro h
  have hfetch : ∃ f ∈ fetches savingTurn.1 savingTurn.2
      (after (savingTurns []) (ofConfig {} ⟨0⟩)),
        f.block.instructions = [savingInstruction] ∧
          (Snapshot.capture (savingInstruction.finds f.context) savingInstruction.store).Fits
          f.context.machine.story ∧
        ¬ f.context.machine.header.FlagsFit f.context.machine.memory.size ∧
        Layout.size ≤ f.context.machine.memory.size ∧
        f.context.machine.story = .ofList (savingStory []) := by
    decide +kernel
  obtain ⟨f, hf, hblock, hfits, hfit, hsize, hstory⟩ := hfetch
  obtain ⟨data, orders, e, hhandle, hrestore⟩ := h {} ⟨0⟩ _ savingTurn f savingInstruction
    f.context hf (.of_first hblock rfl rfl)
  have he : e = endState (handleWithin savingTurn.1 savingTurn.2
      (after (savingTurns []) (ofConfig {} ⟨0⟩))) := by
    rw [hhandle]
    rfl
  have hlater : (after [] e).machine.map (fun s => (s.halted, s.story)) =
      some (false, .ofList (savingStory [])) := by
    rw [he]
    decide +kernel
  obtain ⟨s, hs, hpair⟩ := Option.map_eq_some_iff.1 hlater
  rw [Prod.mk.injEq] at hpair
  obtain ⟨memory, hsync, -⟩ := hrestore hfits [] s hs hpair.1
    (hpair.2.trans hstory.symm) (fun _ => 1) none none
  obtain ⟨memory', hfault⟩ := Machine.syncHeader_eq_error (s := savingInstruction.finds f.context)
    hsize hfit _
  rw [hsync] at hfault
  cases hfault

end Engine
end ZMachine
