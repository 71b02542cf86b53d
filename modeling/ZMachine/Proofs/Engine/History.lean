import ZMachine.Proofs.Engine.Beginning

/-!
# Histories of an engine

A host gives an engine one event after another, and each one runs for as many blocks as its time
slice allows, which is for the host's clock to say.  A history is the list of the blocks that were
executed on the way, each with the context it was executed in:

    history ((units, e) :: rest) = fetches units e ++ history rest      from the state after e

Whatever the events and the slices, the machine keeps the story it was started with, the header of
that story and the size of its memory.
-/

namespace ZMachine

/-! ## The runs of an event -/

/-- A block on its way into execution. -/
structure Fetch where
  /-- The story that the engine has loaded. -/
  loaded : Option Memory
  config : Config
  context : Context
  block : Block
  /-- Whether the block was kept from an earlier execution. -/
  kept : Bool

namespace Fetch

/-- The machine that is going to execute the block. -/
def machine (f : Fetch) : Machine :=
  f.context.machine

end Fetch

/-- The blocks that a run of at most `units` blocks executes. -/
def Run.fetches (loaded : Option Memory) (config : Config) : (units : Nat) → Run → List Fetch
  | 0, _ => []
  | units + 1, run =>
    match Run.fetch run with
    | .error _ _ => []
    | .ok block next =>
      ⟨loaded, config, next.context, block, run.cache.contains run.context.machine.pc⟩ ::
        match Run.turn config run with
        | .ok none next => fetches loaded config units next
        | _ => []

namespace Engine

/-- What a machine runs in. -/
def contextOf (e : Engine) (machine : Machine) : Context where
  machine
  window := e.window
  undo := e.undo
  entropy := e.entropy
  journal := e.journal

/-- What the story runs on. -/
def toRun? (e : Engine) : Option Run :=
  e.machine.map fun machine => ⟨e.contextOf machine, e.cache⟩

/-- The blocks that are executed while an event is handled. -/
def fetches (units : Config → Nat) (envelope : Envelope) (e : Engine) : List Fetch :=
  match begin envelope e with
  | .ok true e' =>
    match e'.toRun? with
    | some run => run.fetches e'.story e'.config (units e'.config)
    | none => []
  | _ => []

/-- An event and how long the story runs for it. -/
abbrev Turn := (Config → Nat) × Envelope

/-- The engine after some events. -/
def after : List Turn → Engine → Engine
  | [], e => e
  | t :: rest, e => after rest (endState (handleWithin t.1 t.2 e))

/-- The blocks that are executed in the course of some events. -/
def history : List Turn → Engine → List Fetch
  | [], _ => []
  | t :: rest, e => fetches t.1 t.2 e ++ history rest (endState (handleWithin t.1 t.2 e))

theorem after_append (before later : List Turn) (e : Engine) :
    after (before ++ later) e = after later (after before e) := by
  induction before generalizing e with
  | nil => rfl
  | cons t rest ih => exact ih _

/-! ## Running -/

theorem toRun?_eq_some {e : Engine} {r : Run} (h : e.toRun? = some r) :
    ∃ s, e.machine = some s ∧ r = ⟨e.contextOf s, e.cache⟩ := by
  obtain ⟨s, hs, hr⟩ := Option.map_eq_some_iff.1 h
  exact ⟨s, hs, hr.symm⟩

theorem toRun?_of_machine {e : Engine} {s : Machine} (hs : e.machine = some s) :
    e.toRun? = some ⟨e.contextOf s, e.cache⟩ := by
  unfold toRun?
  rw [hs]
  rfl

theorem run_none {e : Engine} (h : e.machine = none) (units : Nat) :
    run units e = .error .notStarted { e with window := {} } := by
  obtain ⟨config, story, machine, cache, undo, window, entropy, journal⟩ := e
  cases h
  rfl

theorem run_of_toRun? {e : Engine} {r : Run} (h : e.toRun? = some r) (units : Nat) :
    run units e = match Run.loop e.config units r with
      | .ok control ⟨c, cache⟩ =>
        .ok (deliver control c.window).1 { e with
          machine := some c.machine, cache, undo := c.undo, window := (deliver control c.window).2
          entropy := c.entropy, journal := c.journal.note .batchClosed }
      | .error fault ⟨c, cache⟩ =>
        .error fault { e with
          machine := some { c.machine with halted := true }, cache, undo := c.undo, window := {}
          entropy := c.entropy, journal := c.journal } := by
  obtain ⟨config, story, machine, cache, undo, window, entropy, journal⟩ := e
  cases machine with
  | none => cases h
  | some machine =>
    cases h
    rfl

end Engine

/-! ## What a run keeps -/

namespace Run

theorem executeAll_keeps_identity (config : Config) (instructions : List Instruction) :
    Keeps Context.identity (Block.executeAll config instructions) :=
  (Block.executeAll_makes config instructions).keeps (fun _ _ h => h.identity_eq)

theorem execute_run (config : Config) (b : Block) (run : Run) :
    execute config b run = match b.execute config run.context with
      | .ok _ context => .ok () { run with context }
      | .error e context => .error (Fault.executing b.label e) { run with context } :=
  rfl

theorem endState_execute (config : Config) (b : Block) (run : Run) :
    endState (execute config b run) =
      { run with context := endState (Block.executeAll config b.instructions run.context) } := by
  rw [execute_run]
  unfold Block.execute
  cases Block.executeAll config b.instructions run.context <;> rfl

/-- Executing a block leaves the cache alone, and the machine what it is made of. -/
theorem execute_keeps (config : Config) (b : Block) :
    Keeps (fun run : Run => (run.context.machine.identity, run.cache)) (execute config b) := by
  intro run
  rw [endState_execute]
  exact congrArg (·, run.cache) (executeAll_keeps_identity config b.instructions run.context)

theorem takeControl_keeps :
    Keeps (fun run : Run => (run.context.machine.origin, run.cache)) takeControl := by
  rintro ⟨context, cache⟩
  unfold takeControl
  dsimp only
  split <;> rfl

theorem takeControl_none {run : Run} (h : run.context.control = none) :
    takeControl run = .ok none run := by
  obtain ⟨⟨machine, window, undo, control, entropy, journal⟩, cache⟩ := run
  cases h
  rfl

/-- Any request but to quit only leaves the run. -/
theorem takeControl_some {run : Run} {order : Order} (h : run.context.control = some order)
    (hquit : order ≠ .quit) :
    takeControl run = .ok (some order) { run with context := { run.context with control := none } } := by
  obtain ⟨⟨machine, window, undo, control, entropy, journal⟩, cache⟩ := run
  cases h
  unfold takeControl
  dsimp only
  rw [if_neg (fun h => hquit (Option.some.inj h))]

theorem takeControl_fst {run next : Run} {control : Option Order}
    (h : takeControl run = .ok control next) : run.context.control = control :=
  (EStateM.Result.ok.inj h).1

theorem lookup_run (pc : UInt32) (run : Run) :
    lookup pc run = .ok (run.cache.lookup pc).1 { run with cache := (run.cache.lookup pc).2 } :=
  rfl

/-- A block that was kept is used again; the blocks that are kept stay the same. -/
theorem fetch_kept {run : Run} {b : Block}
    (h : run.cache.blocks[run.context.machine.pc]? = some b) :
    ∃ next, fetch run = .ok b next ∧ next.context.machine = run.context.machine ∧
      next.cache.blocks = run.cache.blocks := by
  have hlookup : lookup run.context.machine.pc run =
      .ok (some b) { run with cache := { run.cache with hits := run.cache.hits + 1 } } := by
    rw [lookup_run]
    unfold Cache.lookup
    rw [h]
  unfold fetch
  rw [get_bind]
  dsimp only
  rw [bind_ok hlookup]
  exact ⟨_, rfl, rfl, rfl⟩

/-- Forms the block at an address and keeps it. -/
def form (pc : UInt32) : RunM Block := do
  let s := (← get).context.machine
  let b ← Block.compile s.memory pc
  if pc.toNat < s.header.staticMemory then note .blockChangeable
  note .blockFormed
  modify fun r => { r with cache := r.cache.insert b }
  return b

/-- Without a kept block, fetching forms one. -/
theorem fetch_none {run : Run} (h : run.cache.blocks[run.context.machine.pc]? = none) :
    ∃ missed : Run, missed.context = run.context ∧ missed.cache.blocks = run.cache.blocks ∧
      fetch run = form run.context.machine.pc missed := by
  have hlookup : lookup run.context.machine.pc run =
      .ok none { run with cache := { run.cache with misses := run.cache.misses + 1 } } := by
    rw [lookup_run]
    unfold Cache.lookup
    rw [h]
  refine ⟨{ run with cache := { run.cache with misses := run.cache.misses + 1 } }, rfl, rfl, ?_⟩
  unfold fetch
  rw [get_bind]
  dsimp only
  rw [bind_ok hlookup]
  rfl

/-- A block that was not kept is formed from the memory as it is now, and kept. -/
theorem fetch_formed {run : Run} {b : Block}
    (h : run.cache.blocks[run.context.machine.pc]? = none)
    (hb : Block.compile run.context.machine.memory run.context.machine.pc = .ok b) :
    ∃ next, fetch run = .ok b next ∧ next.context.machine = run.context.machine ∧
      next.cache.blocks = run.cache.blocks.insert b.pc b := by
  obtain ⟨⟨context, cache⟩, rfl, hblocks, hfetch⟩ := fetch_none h
  rw [← hblocks, hfetch]
  unfold form
  rw [get_bind]
  dsimp only
  rw [lift_bind_ok hb]
  split
  · exact ⟨_, rfl, rfl, rfl⟩
  · exact ⟨_, rfl, rfl, rfl⟩

/-- Where no block can be formed the run ends. -/
theorem fetch_refused {run : Run} {e : Fault}
    (h : run.cache.blocks[run.context.machine.pc]? = none)
    (he : Block.compile run.context.machine.memory run.context.machine.pc = .error e) :
    ∃ next, fetch run = .error e next ∧ next.context.machine = run.context.machine ∧
      next.cache.blocks = run.cache.blocks := by
  obtain ⟨⟨context, cache⟩, rfl, hblocks, hfetch⟩ := fetch_none h
  rw [← hblocks, hfetch]
  unfold form
  rw [get_bind]
  dsimp only
  rw [he]
  exact ⟨_, rfl, rfl, rfl⟩

/-- Fetching leaves all alone but the blocks that are kept and the journal. -/
theorem fetch_keeps_context {τ : Type} {f : Context → τ}
    (hf : ∀ (c : Context) (j : Journal), f { c with journal := j } = f c) :
    Keeps (fun run : Run => f run.context) fetch := by
  have hnote (r : Record) : Keeps (fun run : Run => f run.context) (note r) :=
    keeps_modify (fun run => hf run.context _)
  unfold fetch
  refine keeps_bind keeps_get (fun run => keeps_bind (fun _ => rfl) (fun found => ?_))
  cases found with
  | some b => exact keeps_bind (hnote _) (fun _ => keeps_pure b)
  | none =>
    refine keeps_bind keeps_get (fun run => keeps_bind (keeps_liftExcept _) (fun b => ?_))
    have hform : Keeps (fun run : Run => f run.context) (do
        note .blockFormed
        modify fun r => { r with cache := r.cache.insert b }
        return b : RunM Block) :=
      keeps_bind (hnote _) (fun _ => keeps_bind (keeps_modify (fun _ => rfl)) (fun _ => keeps_pure b))
    exact keeps_ite (fun _ => keeps_bind (hnote _) (fun _ => hform)) (fun _ => hform)

/-- Fetching leaves the machine and the checkpoints alone. -/
theorem fetch_keeps_state :
    Keeps (fun run : Run => (run.context.machine, run.context.undo)) fetch :=
  fetch_keeps_context (f := fun c => (c.machine, c.undo)) (fun _ _ => rfl)

/-- How fetching ends: with a block that was kept, with one that is formed and kept now, or with a
fault, in which case no block is added. -/
theorem fetch_cases (run : Run) :
    (∃ b next, run.cache.blocks[run.context.machine.pc]? = some b ∧ fetch run = .ok b next ∧
        next.context.machine = run.context.machine ∧ next.cache.blocks = run.cache.blocks) ∨
      (∃ b next, run.cache.blocks[run.context.machine.pc]? = none ∧
        Block.compile run.context.machine.memory run.context.machine.pc = .ok b ∧
        fetch run = .ok b next ∧ next.context.machine = run.context.machine ∧
        next.cache.blocks = run.cache.blocks.insert b.pc b) ∨
      (∃ fault next, fetch run = .error fault next ∧
        next.context.machine = run.context.machine ∧ next.cache.blocks = run.cache.blocks) := by
  cases hkept : run.cache.blocks[run.context.machine.pc]? with
  | some b =>
    obtain ⟨next, h⟩ := fetch_kept hkept
    exact .inl ⟨b, next, rfl, h⟩
  | none =>
    cases hb : Block.compile run.context.machine.memory run.context.machine.pc with
    | ok b =>
      obtain ⟨next, h⟩ := fetch_formed hkept hb
      exact .inr (.inl ⟨b, next, rfl, rfl, h⟩)
    | error fault =>
      obtain ⟨next, h⟩ := fetch_refused hkept hb
      exact .inr (.inr ⟨fault, next, h⟩)

/-- Fetching leaves the machine alone. -/
theorem fetch_keeps : Keeps (fun run : Run => run.context.machine) fetch :=
  fetch_keeps_state.comp Prod.fst

theorem turn_keeps_origin (config : Config) :
    Keeps (fun run : Run => run.context.machine.origin) (turn config) := by
  unfold turn
  refine keeps_bind (fetch_keeps.comp Machine.origin) (fun b => ?_)
  refine keeps_bind ?_ (fun _ => takeControl_keeps.comp Prod.fst)
  exact (execute_keeps config b).comp (fun kept => (kept.1.1, kept.1.2.1, kept.1.2.2.2))

/-- What holds between the two ends of every turn holds between those of a run. -/
theorem loop_leads {R : Run → Run → Prop} [IsPreorder Run R] {config : Config}
    (hturn : Leads R (turn config)) (units : Nat) : Leads R (loop config units) := by
  induction units with
  | zero => exact leads_pure _
  | succ units ih =>
    unfold loop
    refine leads_bind hturn (fun control => ?_)
    cases control with
    | none => exact ih
    | some control => exact leads_pure control

theorem loop_keeps {τ : Type} {f : Run → τ} {config : Config} (hturn : Keeps f (turn config))
    (units : Nat) : Keeps f (loop config units) :=
  keeps_iff_leads.2 (loop_leads (keeps_iff_leads.1 hturn) units)

theorem loop_keeps_origin (config : Config) (units : Nat) :
    Keeps (fun run : Run => run.context.machine.origin) (loop config units) :=
  loop_keeps (turn_keeps_origin config) units

/-- A turn that does not end the run keeps the machine running. -/
theorem turn_none_keeps_identity {config : Config} {run next : Run}
    (h : turn config run = .ok none next) :
    next.context.machine.identity = run.context.machine.identity := by
  unfold turn at h
  obtain ⟨b, fetched, hfetch, h⟩ := bind_eq_ok h
  obtain ⟨u, executed, hexecute, h⟩ := bind_eq_ok h
  have hmachine : fetched.context.machine = run.context.machine := fetch_keeps.of_ok hfetch
  have hidentity : executed.context.machine.identity = fetched.context.machine.identity :=
    congrArg Prod.fst ((execute_keeps config b).of_ok hexecute)
  rw [takeControl_none (takeControl_fst h)] at h
  cases h
  rw [hidentity, hmachine]

/-- A run gets to each of its fetches, with a machine that is the same but for its state. -/
theorem loop_of_fetches {loaded : Option Memory} {config : Config} {units : Nat} {f : Fetch} :
    ∀ {run : Run}, f ∈ run.fetches loaded config units →
      ∃ start next more, fetch start = .ok f.block next ∧ next.context = f.context ∧
        f.config = config ∧ start.context.machine.identity = run.context.machine.identity ∧
        loop config units run = loop config (more + 1) start := by
  induction units with
  | zero =>
    intro run hf
    cases hf
  | succ units ih =>
    intro run hf
    unfold fetches at hf
    cases hfetch : fetch run with
    | error e next =>
      rw [hfetch] at hf
      cases hf
    | ok b next =>
      rw [hfetch] at hf
      rcases List.mem_cons.1 hf with rfl | hrest
      · exact ⟨run, next, units, hfetch, rfl, rfl, rfl, rfl⟩
      · cases hturn : turn config run with
        | error e last =>
          rw [hturn] at hrest
          cases hrest
        | ok control last =>
          rw [hturn] at hrest
          cases control with
          | some control => cases hrest
          | none =>
            obtain ⟨start, next, more, hstart, hcontext, hconfig, hidentity, hloop⟩ := ih hrest
            refine ⟨start, next, more, hstart, hcontext, hconfig, ?_, ?_⟩
            · rw [hidentity, turn_none_keeps_identity hturn]
            · rw [← hloop]
              exact bind_ok hturn

end Run

/-! ## The fetches of an event -/

namespace Engine

/-- The event of a fetch begins well, and its run gets to the fetch. -/
theorem mem_fetches {units : Config → Nat} {envelope : Envelope} {e : Engine} {f : Fetch}
    (h : f ∈ fetches units envelope e) :
    ∃ e' r, begin envelope e = .ok true e' ∧ e'.toRun? = some r ∧
      f ∈ r.fetches e'.story e'.config (units e'.config) := by
  unfold fetches at h
  split at h
  · next e' hbegin =>
    split at h
    · next r hrun => exact ⟨e', r, hbegin, hrun, h⟩
    · cases h
  · cases h

/-- Only machines that are not halted execute blocks. -/
theorem running_of_mem_fetches {units : Config → Nat} {envelope : Envelope} {e : Engine}
    {f : Fetch} (h : f ∈ fetches units envelope e) : f.machine.halted = false := by
  obtain ⟨e', r, hbegin, hrun, hf⟩ := mem_fetches h
  obtain ⟨s, hs, hrunning⟩ := begin_running hbegin
  obtain ⟨s', hs', hr⟩ := toRun?_eq_some hrun
  obtain rfl : s = s' := Option.some.inj (hs.symm.trans hs')
  obtain ⟨start, next, more, hfetch, hcontext, -, hidentity, -⟩ := Run.loop_of_fetches hf
  have hmachine : f.machine = start.context.machine := by
    have hkept := Run.fetch_keeps.of_ok hfetch
    rwa [hcontext] at hkept
  have hsame : f.machine.identity = s.identity := by
    rw [hmachine, hidentity, hr]
    rfl
  rw [← hrunning]
  exact congrArg (·.2.2.1) hsame

/-- A run leaves the story alone and the machine what it is made of; the blocks are those that the
loop ends with. -/
theorem run_leaves {e : Engine} {r : Run} (h : e.toRun? = some r) (units : Nat) :
    ∃ s, (endState (run units e)).machine = some s ∧ s.origin = r.context.machine.origin ∧
      (endState (run units e)).story = e.story ∧
      (endState (run units e)).cache = (endState (Run.loop e.config units r)).cache := by
  have horigin := Run.loop_keeps_origin e.config units r
  rw [run_of_toRun? h]
  cases hloop : Run.loop e.config units r with
  | ok control last =>
    rw [hloop] at horigin
    exact ⟨_, rfl, horigin, rfl, rfl⟩
  | error fault last =>
    rw [hloop] at horigin
    exact ⟨_, rfl, horigin, rfl, rfl⟩

/-! ## Short histories -/

/-- A story of version 5 with its code at address 0x40, where static memory starts. -/
def storyOf (code : List UInt8) : List UInt8 :=
  [5, 0, 0, 0, 0, 0, 0, 0x40] ++ List.replicate 6 0 ++ [0, 0x40] ++ List.replicate 48 0 ++ code

/-- A story that jumps back to its start. -/
def loopStory : List UInt8 :=
  storyOf [0x8C, 0xFF, 0xFF]

/-- Events that each run the story for one block. -/
def oneByOne (events : List Event) : List Turn :=
  events.map fun event => (fun _ => 1, ⟨event, none⟩)

end Engine
end ZMachine
