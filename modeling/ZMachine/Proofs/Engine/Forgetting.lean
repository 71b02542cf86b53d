import ZMachine.Proofs.Engine.GoingBack
import ZMachine.Proofs.Engine.Seedless

/-!
# What a restart forgets

A restart makes a machine of the loaded story and drops the checkpoints and the screen.  Of the engine
before it, the story, the settings and the blocks that are kept have a part in what follows, and of
the machine that was running only the bits of flags 2 that are kept:

    memory after restart = story, but for the bytes of the capabilities
    byte 0x11            = the byte before AND 0x57

So two engines that agree on these go the same way after a restart, whatever was played on them, as
long as the story takes no seed for its random numbers.  What cannot be known from outside is how many
checkpoints are kept; it is decided by the settings.
-/

namespace ZMachine

namespace Machine

/-! ## Making a machine -/

theorem flags_lt_of_parse {story : Memory} {h : Header} (hparse : Header.parse story = .ok h) :
    Layout.flags2 < story.size := by
  have hsize := Header.size_of_parse hparse
  unfold Layout.size at hsize
  unfold Layout.flags2
  omega

theorem carryFlags_run (previous : Memory) {m : Memory} (hm : Layout.flags2 < m.size) :
    Header.carryFlags previous m = match previous.read8 Layout.flags2 with
      | .ok b => .ok () (m.set8 Layout.flags2 b)
      | .error fault => .error (.outOfRange fault) m := by
  unfold Header.carryFlags
  cases previous.read8 Layout.flags2 with
  | ok b => exact Memory.write8_of_lt hm b
  | error fault => rfl

/-- A story with a header is made into a machine, unless the memory before has no flags 2. -/
theorem start_of_parse {story : Memory} {h : Header} (hparse : Header.parse story = .ok h)
    (previous : Memory) : start story (some previous) =
      match previous.read8 Layout.flags2 with
      | .ok b =>
        .ok { memory := story.set8 Layout.flags2 b, header := h, pc := h.initialPc, story }
      | .error fault => .error (.outOfRange fault) := by
  have hcarry := carryFlags_run previous (flags_lt_of_parse hparse)
  unfold start
  rw [hparse]
  cases hread : previous.read8 Layout.flags2 with
  | ok b =>
    rw [hread] at hcarry
    simp only [hcarry]
    rfl
  | error fault =>
    rw [hread] at hcarry
    simp only [hcarry]
    rfl

theorem start_of_not_parse {story : Memory} {fault : Fault}
    (hparse : Header.parse story = .error fault) (previous : Option Memory) :
    start story previous = .error fault := by
  unfold start
  rw [hparse]
  rfl

/-- The machine of a story begins with nothing but the story and the byte of flags 2 from before. -/
theorem start_inv {story : Memory} {previous : Option Memory} {s : Machine}
    (h : start story previous = .ok s) : ∃ header b, Header.parse story = .ok header ∧
      (previous.getD story).byteAt Layout.flags2 = some b ∧
      s = { memory := story.set8 Layout.flags2 b, header, pc := header.initialPc, story } := by
  cases hparse : Header.parse story with
  | error fault =>
    rw [start_of_not_parse hparse] at h
    cases h
  | ok header =>
    cases previous with
    | none =>
      obtain ⟨b, hb⟩ := story.read8_of_lt Layout.flags2 (flags_lt_of_parse hparse)
      have hbyte : story.byteAt Layout.flags2 = some b := (Memory.read8_eq_ok_iff _ _ _).1 hb
      refine ⟨header, b, rfl, hbyte, ?_⟩
      rw [Memory.set8_of_byteAt hbyte]
      unfold start at h
      rw [hparse] at h
      cases h
      rfl
    | some p =>
      rw [start_of_parse hparse] at h
      cases hb : p.read8 Layout.flags2 with
      | error fault =>
        rw [hb] at h
        cases h
      | ok b =>
        rw [hb] at h
        exact ⟨header, b, rfl, (Memory.read8_eq_ok_iff _ _ _).1 hb, (Except.ok.inj h).symm⟩

/-- Of the memory before only the bits of flags 2 that are kept have a part in the machine, once its
header was brought up to date. -/
theorem start_alike (story : Memory) {previous other : Memory}
    (hflags : (other.read8 Layout.flags2).map (· &&& 0x57) =
      (previous.read8 Layout.flags2).map (· &&& 0x57)) :
    (∃ fault, start story (some previous) = .error fault ∧
        start story (some other) = .error fault) ∨
      ∃ s s', start story (some previous) = .ok s ∧ start story (some other) = .ok s' ∧
        ∀ c, syncHeader c s' = syncHeader c s := by
  cases hparse : Header.parse story with
  | error fault => exact .inl ⟨fault, start_of_not_parse hparse _, start_of_not_parse hparse _⟩
  | ok header =>
    rw [start_of_parse hparse, start_of_parse hparse]
    cases hb : previous.read8 Layout.flags2 with
    | error fault =>
      cases hb' : other.read8 Layout.flags2 with
      | ok b' =>
        rw [hb, hb'] at hflags
        cases hflags
      | error fault' =>
        rw [hb, hb'] at hflags
        cases hflags
        exact .inl ⟨_, rfl, rfl⟩
    | ok b =>
      cases hb' : other.read8 Layout.flags2 with
      | error fault' =>
        rw [hb, hb'] at hflags
        cases hflags
      | ok b' =>
        rw [hb, hb'] at hflags
        have hkept : b' &&& 0x57 = b &&& 0x57 := Except.ok.inj hflags
        refine .inr ⟨_, _, rfl, rfl, fun c => ?_⟩
        show onMemory (header.writeCapabilities c)
            { memory := story.set8 Layout.flags2 b', header, pc := header.initialPc, story } =
          onMemory (header.writeCapabilities c)
            { memory := story.set8 Layout.flags2 b, header, pc := header.initialPc, story }
        rw [onMemory_run, onMemory_run,
          Header.writeCapabilities_congr header c (Header.size_of_parse hparse) hkept]

end Machine

namespace Engine

/-! ## Engines that a restart makes alike -/

/-- Engines between which a restart makes no difference: they agree on the story, the settings, the
blocks that are kept and the number of checkpoints there is room for, and either both have no machine
or the two machines agree on the bits 0x57 of flags 2. -/
structure Rivals (e e' : Engine) : Prop where
  story : e'.story = e.story
  config : e'.config = e.config
  blocks : ∀ pc : UInt32, e'.cache.blocks[pc]? = e.cache.blocks[pc]?
  room : e'.undo.depth = e.undo.depth
  flags : e'.machine.map (fun s => (s.memory.read8 Layout.flags2).map (· &&& 0x57)) =
    e.machine.map (fun s => (s.memory.read8 Layout.flags2).map (· &&& 0x57))

variable {e e' : Engine}

theorem Rivals.ready (h : Rivals e e') (envelope : Envelope) :
    Rivals (ready envelope e) (ready envelope e') := by
  obtain ⟨hmachine, hstory, hcache⟩ := ready_kept envelope e
  obtain ⟨hmachine', hstory', hcache'⟩ := ready_kept envelope e'
  refine ⟨by rw [hstory, hstory', h.story], ?_, fun pc => ?_, ?_, ?_⟩
  · unfold Engine.ready prepare
    cases envelope.env with
    | none => exact h.config
    | some p => exact congrArg (Config.apply · p) h.config
  · rw [hcache, hcache', h.blocks pc]
  · rw [ready_undo, ready_undo]
    cases envelope.env with
    | none => exact h.room
    | some p => exact congrArg (fun c : Config => max 1 (c.apply p).undoDepth) h.config
  · rw [hmachine, hmachine', h.flags]

/-- The machines that are made of the two are the same after their headers were brought up to date. -/
theorem Rivals.fresh (h : Rivals e e') :
    (∃ fault, e.fresh = .error fault ∧ e'.fresh = .error fault) ∨
      ∃ s s', e.fresh = .ok s ∧ e'.fresh = .ok s' ∧
        ∀ c, Machine.syncHeader c s' = Machine.syncHeader c s := by
  unfold Engine.fresh
  rw [h.story]
  cases e.story with
  | none => exact .inl ⟨.noStory, rfl, rfl⟩
  | some story =>
    have hflags := h.flags
    cases hs : e.machine with
    | none =>
      rw [hs] at hflags
      rw [Option.map_eq_none_iff.1 hflags]
      dsimp only [Option.map_none]
      cases Machine.start story none with
      | error fault => exact .inl ⟨fault, rfl, rfl⟩
      | ok s => exact .inr ⟨s, s, rfl, rfl, fun _ => rfl⟩
    | some s =>
      rw [hs] at hflags
      obtain ⟨s', hs', hkept⟩ := Option.map_eq_some_iff.1 hflags
      rw [hs']
      exact Machine.start_alike story hkept

/-- A restart comes to nothing on both, or makes them alike. -/
theorem Rivals.restart (h : Rivals e e') :
    (∃ fault, restart e = .error fault e ∧ restart e' = .error fault e') ∨
      Alike view (restart e) (restart e') := by
  rcases h.fresh with ⟨fault, hfresh, hfresh'⟩ | ⟨s, s', hfresh, hfresh', hsync⟩
  · exact .inl ⟨fault, restart_of_not_fresh hfresh, restart_of_not_fresh hfresh'⟩
  · right
    rw [restart_of_fresh hfresh, restart_of_fresh hfresh', onMachine_run rfl, onMachine_run rfl,
      hsync, h.config]
    have hundo : e'.undo.clear = e.undo.clear := congrArg (Undo.mk []) h.room
    have hblocks : (fun pc : UInt32 => e'.cache.blocks[pc]?) = fun pc => e.cache.blocks[pc]? :=
      funext h.blocks
    cases Machine.syncHeader e.config s with
    | ok u s =>
      refine ⟨rfl, ?_⟩
      simp only [endState_ok, view, install, h.config, hundo, hblocks]
    | error fault s =>
      refine ⟨rfl, ?_⟩
      simp only [endState_error, view, install, h.config, hundo, hblocks]

theorem Rivals.begin (h : Rivals e e') (env : Option Patch) :
    (∃ fault last last', begin ⟨.restart, env⟩ e = .error fault last ∧
        begin ⟨.restart, env⟩ e' = .error fault last') ∨
      Alike view (begin ⟨.restart, env⟩ e) (begin ⟨.restart, env⟩ e') := by
  rw [begin_restart, begin_restart]
  rcases (h.ready ⟨.restart, env⟩).restart with ⟨fault, hrestart, hrestart'⟩ | halike
  · exact .inl ⟨fault, _, _, bind_error hrestart, bind_error hrestart'⟩
  · exact .inr (halike.bind (fun _ _ _ _ hview => ⟨rfl, hview⟩))

/-- A restart is handled alike by both, if the story takes no seed. -/
theorem Rivals.handleWithin (h : Rivals e e') (units : Config → Nat) (env : Option Patch)
    (hseeds : ∀ v ∈ visits units ⟨.restart, env⟩ e, ¬ v.TakesSeed) :
    (∃ fault last last', handleWithin units ⟨.restart, env⟩ e = .error fault last ∧
        handleWithin units ⟨.restart, env⟩ e' = .error fault last') ∨
      Alike view (handleWithin units ⟨.restart, env⟩ e) (handleWithin units ⟨.restart, env⟩ e') := by
  rcases h.begin env with ⟨fault, last, last', hbegin, hbegin'⟩ | halike
  · exact .inl ⟨fault, last, last', handleWithin_of_fault hbegin units,
      handleWithin_of_fault hbegin' units⟩
  · right
    rw [handleWithin_eq]
    refine halike.bind (fun goes e₁ e₁' hbegin hview => ?_)
    cases goes with
    | false => exact ⟨rfl, hview⟩
    | true =>
      have hconfig : e₁'.config = e₁.config := congrArg Prod.fst hview
      show Alike view (run (units e₁.config) e₁) (run (units e₁'.config) e₁')
      rw [hconfig]
      refine run_alike hview _ (fun r hr v hv => hseeds v ?_)
      unfold visits fetches
      rw [hbegin]
      dsimp only
      rw [hr]
      exact hv

/-! ## How many checkpoints are kept -/

theorem executeAll_keeps_depth (config : Config) (instructions : List Instruction) :
    Keeps (fun c : Context => c.undo.depth) (Block.executeAll config instructions) := by
  refine (Block.executeAll_makes config instructions).keeps (fun c c' h => ?_)
  cases h with
  | change h => exact congrArg Undo.depth h.undo_eq
  | jump | request | enter | leave | keep => rfl
  | drop hpop | back hpop => exact (Undo.pop_eq_some hpop).2

theorem turn_keeps_depth (config : Config) :
    Keeps (fun run : Run => run.context.undo.depth) (Run.turn config) := by
  have hexecute (b : Block) : Keeps (fun run : Run => run.context.undo.depth)
      (Run.execute config b) := by
    intro run
    rw [Run.endState_execute]
    exact executeAll_keeps_depth config b.instructions run.context
  exact keeps_bind (Run.fetch_keeps_state.comp (·.2.depth)) (fun b =>
    keeps_bind (hexecute b) (fun _ => Run.takeControl_keeps_undo.comp Undo.depth))

theorem loop_keeps_depth (config : Config) (units : Nat) :
    Keeps (fun run : Run => run.context.undo.depth) (Run.loop config units) :=
  Run.loop_keeps (turn_keeps_depth config) units

/-- The settings decide how many checkpoints there is room for. -/
def Roomy (e : Engine) : Prop :=
  e.undo.depth = max 1 e.config.undoDepth

theorem run_keeps_room (units : Nat) :
    Keeps (fun e : Engine => (e.config, e.undo.depth)) (run units) := by
  intro e
  cases hs : e.machine with
  | none => rw [run_none hs, endState_error]
  | some s =>
    have hdepth := loop_keeps_depth e.config units ⟨e.contextOf s, e.cache⟩
    rw [run_of_toRun? (toRun?_of_machine hs)]
    cases hloop : Run.loop e.config units ⟨e.contextOf s, e.cache⟩ with
    | ok control last =>
      rw [hloop] at hdepth
      exact congrArg (Prod.mk e.config) hdepth
    | error fault last =>
      rw [hloop] at hdepth
      exact congrArg (Prod.mk e.config) hdepth

theorem take_keeps_room (event : Event) :
    Keeps (fun e : Engine => (e.config, e.undo.depth)) (take event) := by
  by_cases hinput : event.isInput = true
  · refine (take_makes hinput).keeps (fun e e' h => ?_)
    cases h <;> rfl
  cases event with
  | load data =>
    intro e
    show ((load data e).config, (load data e).undo.depth) = _
    unfold load
    dsimp only
    split <;> rfl
  | restart =>
    have hrestart : Keeps (fun e : Engine => (e.config, e.undo.depth)) restart := by
      intro e
      rcases restart_cases e with ⟨fault, -, hsame⟩ | ⟨s, -, hmade⟩
      · rw [hsame, endState_error]
      · rw [hmade]
        rfl
    exact keeps_bind hrestart (fun _ => keeps_pure true)
  | restore | read | char | resume => exact absurd rfl hinput

theorem begin_roomy {envelope : Envelope} (h : e.Roomy) :
    (endState (begin envelope e)).Roomy := by
  have hready : (ready envelope e).Roomy := by
    unfold Engine.ready prepare
    cases envelope.env with
    | none => exact h
    | some p => rfl
  have hkept := take_keeps_room envelope.event (ready envelope e)
  rw [Prod.mk.injEq] at hkept
  unfold Roomy
  rw [begin_run, hkept.1, hkept.2]
  exact hready

theorem handleWithin_roomy (units : Config → Nat) (envelope : Envelope) (h : e.Roomy) :
    (endState (handleWithin units envelope e)).Roomy := by
  have hbegin : (endState (begin envelope e)).Roomy := begin_roomy h
  rw [handleWithin_eq]
  cases hrun : begin envelope e with
  | error fault e₁ =>
    rw [hrun] at hbegin
    rw [bind_error hrun]
    exact hbegin
  | ok goes e₁ =>
    rw [hrun] at hbegin
    rw [bind_ok hrun]
    cases goes with
    | false => exact hbegin
    | true =>
      have hkept := run_keeps_room (units e₁.config) e₁
      rw [Prod.mk.injEq] at hkept
      show (endState (run (units e₁.config) e₁)).Roomy
      unfold Roomy
      rw [hkept.1, hkept.2]
      exact hbegin

/-- So it is in every engine, whatever was played on it. -/
theorem after_roomy (config : Config) (entropy : Entropy) (turns : List Turn) :
    (after turns (ofConfig config entropy)).Roomy := by
  have hafter : ∀ e : Engine, e.Roomy → (after turns e).Roomy := by
    induction turns with
    | nil => exact fun e h => h
    | cons t rest ih => exact fun e h => ih _ (handleWithin_roomy t.1 t.2 h)
  exact hafter _ rfl

/-! ## What the story starts from -/

/-- The byte of flags 2 that a restart carries over: that of the machine before, if there is one, and
else that of the story. -/
def flagsBefore (e : Engine) (story : Memory) : Option UInt8 :=
  ((e.machine.map (·.memory)).getD story).byteAt Layout.flags2

/-- A machine that is made for a restart is the story with that byte. -/
theorem fresh_inv {s : Machine} (h : e.fresh = .ok s) : ∃ story header b,
    e.story = some story ∧ Header.parse story = .ok header ∧ e.flagsBefore story = some b ∧
      s = { memory := story.set8 Layout.flags2 b, header, pc := header.initialPc, story } := by
  unfold fresh at h
  cases hstory : e.story with
  | none =>
    rw [hstory] at h
    cases h
  | some story =>
    rw [hstory] at h
    obtain ⟨header, b, hparse, hbefore, hs⟩ := Machine.start_inv h
    exact ⟨story, header, b, rfl, hparse, hbefore, hs⟩

/-- What is written over the story then: the capabilities, and the mask over flags 2. -/
theorem written_over_story {story memory : Memory} {header : Header} {c : Config} {b : UInt8}
    (hparse : Header.parse story = .ok header)
    (hwritten : header.writeCapabilities c (story.set8 Layout.flags2 b) = .ok () memory) :
    memory.size = story.size ∧
      (∀ k, ¬ header.IsCapability k → memory.byteAt k = story.byteAt k) ∧
      (¬ header.FlagsCover Layout.flags2 →
        memory.byteAt Layout.flags2 = some (b &&& 0x57)) := by
  refine ⟨?_, fun k hk => ?_, fun hcover => ?_⟩
  · rw [(Header.writeCapabilities_keeps_size header _).of_ok hwritten, Memory.size_set8]
  · rw [(Header.writeCapabilities_keeps_byte hk _).of_ok hwritten]
    refine Memory.byteAt_set8_of_ne story (fun hflags => hk (.inl ?_)) b
    rw [← hflags]
    decide
  · have hlarge : Layout.size ≤ (story.set8 Layout.flags2 b).size := by
      rw [Memory.size_set8]
      exact Header.size_of_parse hparse
    rw [Header.byteAt_flags_of_writeCapabilities hlarge hcover hwritten,
      Memory.byteAt_set8_self (Machine.flags_lt_of_parse hparse)]
    rfl

/-- How a restart is begun: all of the machine is new, and its memory is the story but for the bytes
of the capabilities. -/
theorem begin_restart_eq_ok {env : Option Patch} {goes : Bool} {e₁ : Engine}
    (h : begin ⟨.restart, env⟩ e = .ok goes e₁) : ∃ story header memory,
      e.story = some story ∧ Header.parse story = .ok header ∧
      e₁.machine = some { memory, header, pc := header.initialPc, story } ∧
      e₁.undo.entries = [] ∧ e₁.window = {} ∧ memory.size = story.size ∧
      (∀ k, ¬ header.IsCapability k → memory.byteAt k = story.byteAt k) ∧
      (¬ header.FlagsCover Layout.flags2 →
        memory.byteAt Layout.flags2 = (e.flagsBefore story).map (· &&& 0x57)) := by
  rw [begin_restart] at h
  obtain ⟨u, e₂, hrestart, hgoes⟩ := bind_eq_ok h
  cases hgoes
  have hready := fresh_ready ⟨.restart, env⟩ e
  cases hfresh : e.fresh with
  | error fault =>
    rw [restart_of_not_fresh (hready.trans hfresh)] at hrestart
    cases hrestart
  | ok s =>
    obtain ⟨story, header, b, hstory, hparse, hbefore, rfl⟩ := fresh_inv hfresh
    have hsync (c : Config) : Machine.syncHeader c
        { memory := story.set8 Layout.flags2 b, header, pc := header.initialPc, story } =
          Machine.onMemory (header.writeCapabilities c)
            { memory := story.set8 Layout.flags2 b, header, pc := header.initialPc, story } :=
      rfl
    rw [restart_of_fresh (hready.trans hfresh), onMachine_run rfl, hsync,
      Machine.onMemory_run] at hrestart
    dsimp only at hrestart
    cases hwritten : header.writeCapabilities (ready ⟨.restart, env⟩ e).config
        (story.set8 Layout.flags2 b) with
    | error fault memory =>
      rw [hwritten] at hrestart
      cases hrestart
    | ok v memory =>
      rw [hwritten] at hrestart
      cases hrestart
      obtain ⟨hsize, hbytes, hflags⟩ := written_over_story hparse hwritten
      refine ⟨story, header, memory, hstory, hparse, rfl, rfl, rfl, hsize, hbytes, fun hcover => ?_⟩
      rw [hflags hcover, hbefore]
      rfl

/-- **A restart forgets everything but flags 2.**  Engines that agree on the story, the settings, the
blocks that are kept and the bits 0x57 of flags 2 answer a restart alike, and if they answer with
orders they are left with the same machine, the same checkpoints and the same screen, unless the story
takes a seed for a random number.  When the story begins to run, the machine is new but for the byte
of flags 2, which is masked, and the bytes of the capabilities. -/
theorem restart_forgets (units : Config → Nat) (env : Option Patch) (e : Engine) :
    let restart : Envelope := ⟨.restart, env⟩
    (∀ e' : Engine, e.Rivals e' → (∀ v ∈ visits units restart e, ¬ v.TakesSeed) →
      outcome (handleWithin units restart e') = outcome (handleWithin units restart e) ∧
      ∀ orders last, handleWithin units restart e = .ok orders last →
        ∃ last', handleWithin units restart e' = .ok orders last' ∧
          last'.machine = last.machine ∧ last'.undo = last.undo ∧ last'.window = last.window) ∧
    ∀ e₁, begin restart e = .ok true e₁ → ∃ story header memory,
      e.story = some story ∧ Header.parse story = .ok header ∧
      e₁.machine = some { memory, header, pc := header.initialPc, story } ∧
      e₁.undo.entries = [] ∧ e₁.window = {} ∧ memory.size = story.size ∧
      (∀ k, ¬ header.IsCapability k → memory.byteAt k = story.byteAt k) ∧
      (¬ header.FlagsCover Layout.flags2 →
        memory.byteAt Layout.flags2 = (e.flagsBefore story).map (· &&& 0x57)) := by
  intro restart
  refine ⟨fun e' hrivals hseeds => ?_, fun e₁ hbegin => begin_restart_eq_ok hbegin⟩
  rcases hrivals.handleWithin units env hseeds with ⟨fault, last, last', hend, hend'⟩ | halike
  · rw [hend, hend']
    exact ⟨rfl, fun orders last hok => by cases hok⟩
  · refine ⟨halike.1, fun orders last hok => ?_⟩
    obtain ⟨last', hok', hview⟩ := halike.of_ok hok
    simp only [view, Prod.mk.injEq] at hview
    exact ⟨last', hok', hview.2.1, hview.2.2.1, hview.2.2.2.1⟩

/-- A story that sets two bits of flags 2 and counts its random numbers: it asks for every seventh to
be the same, draws a number up to 10, prints it and quits. -/
def countingTurns : List Turn :=
  oneByOne [.load (storyOf [0xE2, 0x57, 0, 0x11, 3, 0xE7, 0x3F, 0xFF, 0xF9, 0, 0xE7, 0x7F, 10, 0,
    0xE6, 0xBF, 0, 0xBA]), .restart]

/-- An engine at another point of its story: the machine is running, its memory, stack, random numbers
and streams are others, there is a checkpoint, and text is pending. -/
def atAnotherPoint (e : Engine) : Engine :=
  { e with
    machine := e.machine.map fun s => { s with
      memory := (s.memory.set8 Layout.flags2 0xAB).set8 0x40 7
      stack := ⟨#[1, 2], []⟩
      random := .ofSeed 2000
      streams := ⟨false, [⟨0x40, 2⟩]⟩
      halted := false }
    undo := { e.undo with entries := (e.machine.map (Snapshot.capture · none)).toList }
    window := e.window.print "x"
    entropy := ⟨9⟩
    journal := [] }

theorem restart_forgets_counting :
    let e := after countingTurns (ofConfig {} ⟨0⟩)
    let e' := e.atAnotherPoint
    let restart : Envelope := ⟨.restart, none⟩
    e.Rivals e' ∧ e'.machine ≠ e.machine ∧ e'.undo ≠ e.undo ∧
      (∀ v ∈ visits (fun _ => 1) restart e, ¬ v.TakesSeed) ∧
      (∃ e₁ s, begin restart e' = .ok true e₁ ∧ e₁.machine = some s ∧
        e'.flagsBefore s.story = some 0xAB ∧ s.memory.byteAt 0x11 = some 3) ∧
      ∃ orders last last', mainText orders = [('1', 0)] ∧
        handleWithin (fun _ => 1) restart e = .ok orders last ∧
        handleWithin (fun _ => 1) restart e' = .ok orders last' ∧
        last'.machine = last.machine ∧ last'.undo = last.undo ∧ last'.window = last.window := by
  intro e e' restart
  have hsame (e : Engine) : e.atAnotherPoint.story = e.story ∧ e.atAnotherPoint.config = e.config ∧
      e.atAnotherPoint.cache = e.cache ∧ e.atAnotherPoint.undo.depth = e.undo.depth :=
    ⟨rfl, rfl, rfl, rfl⟩
  obtain ⟨hstory, hconfig, hcache, hdepth⟩ := hsame e
  have hrivals : e.Rivals e' :=
    ⟨hstory, hconfig, fun pc => by rw [hcache], hdepth, by decide +kernel⟩
  have hseeds : ∀ v ∈ visits (fun _ => 1) restart e, ¬ v.TakesSeed := by decide +kernel
  obtain ⟨orders, hanswer, htext⟩ : ∃ orders,
      outcome (handleWithin (fun _ => 1) restart e) = .ok orders ∧ mainText orders = [('1', 0)] :=
    exists_ok (by decide +kernel)
  have hhandled := eq_ok_of_outcome hanswer
  obtain ⟨-, hforgets⟩ := (restart_forgets (fun _ => 1) none e).1 e' hrivals hseeds
  obtain ⟨last', hhandled', hlast⟩ := hforgets orders _ hhandled
  have hbegin : begin restart e' = .ok true (endState (begin restart e')) :=
    eq_ok_of_outcome (by decide +kernel)
  obtain ⟨story, header, memory, hstory, hparse, hmachine, -, -, -, -, hflags⟩ :=
    (restart_forgets (fun _ => 1) none e').2 _ hbegin
  have hheader : ∀ story ∈ e'.story, ∀ header ∈ (Header.parse story).toOption,
      ¬ header.FlagsCover 0x11 ∧ e'.flagsBefore story = some 0xAB := by
    decide +kernel
  obtain ⟨hcover, hbefore⟩ := hheader story hstory header (by rw [hparse]; rfl)
  have hkept : memory.byteAt 0x11 = some 3 := by
    refine (hflags hcover).trans ?_
    rw [hbefore]
    rfl
  exact ⟨hrivals, by decide +kernel, by decide +kernel, hseeds,
    ⟨_, _, hbegin, hmachine, hbefore, hkept⟩, orders, _, last', htext, hhandled, hhandled', hlast⟩

end Engine
end ZMachine
