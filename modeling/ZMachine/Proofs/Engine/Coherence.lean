import ZMachine.Proofs.Block.Refinement
import ZMachine.Proofs.Engine.History

/-!
# Kept blocks

A block that is taken from the cache was formed earlier, at the same address and with the same story
loaded, and has not changed since:

    a kept fetch f  →  an earlier fetch g, not kept, with compile g.memory pc = .ok f.block

So the block is the one that would be formed now just if the memory then and the memory now compile
alike at that address.  They do when both machines were made from one story and have left its static
memory as it was.  They need not when a story was loaded but the machine of the one before ran on,
or when a story wrote into its own static memory.
-/

namespace ZMachine

/-! ## Forming a block is local -/

namespace Block

theorem straightLine_agree {m m' : Memory} {start : Nat} (hm : Memory.Agree m m' start m.size)
    (hsize : m'.size = m.size) (hlt : m.size < 2 ^ 32) (more : Nat) :
    ∀ (a : UInt32) (i : Instruction), Instruction.decode m a = .ok i → start ≤ a.toNat →
      straightLine m' more i = straightLine m more i := by
  induction more with
  | zero => exact fun _ _ _ _ => rfl
  | succ more ih =>
    intro a i hi ha
    obtain ⟨hmoves, hextent⟩ := Instruction.decode_extent hi
    have hnext : i.next.toNat = Instruction.extent m a := by
      rw [(Instruction.decode_places hi).2, UInt32.toNat_ofNat']
      exact Nat.mod_eq_of_lt (by omega)
    unfold straightLine
    by_cases hends : i.opcode.endsUnit = true
    · rw [if_pos hends, if_pos hends]
    rw [if_neg hends, if_neg hends]
    cases hj : Instruction.decode m i.next with
    | ok j =>
      have hj' := (Instruction.decode_agree hj
        (hm.mono (by omega) (Instruction.decode_extent hj).2)).1
      rw [hj']
      dsimp only
      rw [ih i.next j hj (by omega)]
    | error e =>
      cases hj' : Instruction.decode m' i.next with
      | error e' => rfl
      | ok j =>
        have hback := (Instruction.decode_agree hj'
          (hm.symm.mono (by omega) (hsize ▸ (Instruction.decode_extent hj').2))).1
        rw [hj] at hback
        cases hback

/-- A block depends only on the memory from its address on. -/
theorem compile_agree {m m' : Memory} {start : Nat} {pc : UInt32} {b : Block}
    (h : compile m pc = .ok b) (hm : Memory.Agree m m' start m.size) (hsize : m'.size = m.size)
    (hlt : m.size < 2 ^ 32) (hpc : start ≤ pc.toNat) : compile m' pc = .ok b := by
  unfold compile at h ⊢
  cases hi : Instruction.decode m pc with
  | error e =>
    rw [hi] at h
    cases h
  | ok i =>
    have hi' := (Instruction.decode_agree hi
      (hm.mono hpc (Instruction.decode_extent hi).2)).1
    rw [hi] at h
    rw [hi']
    dsimp only at h ⊢
    rw [straightLine_agree hm hsize hlt _ pc i hi hpc]
    exact h

end Block

/-! ## Where a kept block comes from -/

namespace Fetch

/-- The address that the block starts at. -/
def pc (f : Fetch) : UInt32 :=
  f.machine.pc

/-- The static memory of the machine is that of its story. -/
def Intact (f : Fetch) : Prop :=
  Memory.Agree f.machine.story f.machine.memory f.machine.header.staticMemory f.machine.story.size

/-- The block is the one that would be formed now. -/
def Fresh (f : Fetch) : Prop :=
  Block.compile f.machine.memory f.pc = .ok f.block

instance (f : Fetch) : Decidable f.Intact :=
  inferInstanceAs (Decidable (Memory.Agree _ _ _ _))

instance (f : Fetch) : Decidable f.Fresh :=
  decidable_of_iff ((Block.compile f.machine.memory f.pc).toOption = some f.block) (by
    unfold Fresh
    cases Block.compile f.machine.memory f.pc <;> simp [Except.toOption])

/-- An earlier fetch `g` that formed the block `b` for an address while `loaded` was loaded.  If its
machine was made from `loaded`, then the machine that is there now was too; `made` is the story
that one was made from. -/
structure Origin (log : List Fetch) (loaded made : Option Memory) (pc : UInt32) (b : Block)
    (g : Fetch) : Prop where
  mem : g ∈ log
  formed : g.kept = false
  pc_eq : g.pc = pc
  block_eq : g.block = b
  loaded_eq : g.loaded = loaded
  sound : g.machine.Sound
  fresh : g.Fresh
  current : loaded = some g.machine.story → made = loaded

/-- A fetch forms its block or takes one that has an origin in the log. -/
structure Accounted (log : List Fetch) (f : Fetch) : Prop where
  sound : f.machine.Sound
  fresh : f.kept = false → f.Fresh
  origin : f.kept = true → ∃ g, Origin log f.loaded (some f.machine.story) f.pc f.block g

/-- Every fetch is accounted for by the log and the fetches before it. -/
def AllAccounted (log : List Fetch) : List Fetch → Prop
  | [] => True
  | f :: rest => Accounted log f ∧ AllAccounted (log ++ [f]) rest

theorem Origin.mono {log log' : List Fetch} {loaded made : Option Memory} {pc : UInt32} {b : Block}
    {g : Fetch} (h : Origin log loaded made pc b g) (hlog : ∀ g ∈ log, g ∈ log') :
    Origin log' loaded made pc b g :=
  { h with mem := hlog g h.mem }

theorem allAccounted_append {log fs gs : List Fetch} (hf : AllAccounted log fs)
    (hg : AllAccounted (log ++ fs) gs) : AllAccounted log (fs ++ gs) := by
  induction fs generalizing log with
  | nil => simpa using hg
  | cons f rest ih =>
    refine ⟨hf.1, ih hf.2 ?_⟩
    rw [List.append_assoc]
    exact hg

theorem AllAccounted.accounted {log pre post : List Fetch} {f : Fetch}
    (h : AllAccounted log (pre ++ f :: post)) : Accounted (log ++ pre) f := by
  induction pre generalizing log with
  | nil => simpa using h.1
  | cons g rest ih =>
    have hrest := ih h.2
    rwa [List.append_assoc] at hrest

theorem AllAccounted.of_mem {log fs : List Fetch} (h : AllAccounted log fs) {f : Fetch}
    (hf : f ∈ fs) : ∃ log', Accounted log' f := by
  obtain ⟨pre, post, rfl⟩ := List.append_of_mem hf
  exact ⟨_, h.accounted⟩

/-- A block was formed from some memory, be it now or earlier. -/
theorem Accounted.compiled {log : List Fetch} {f : Fetch} (h : Accounted log f) :
    ∃ m, Block.compile m f.pc = .ok f.block := by
  cases hkept : f.kept with
  | false => exact ⟨f.machine.memory, h.fresh hkept⟩
  | true =>
    obtain ⟨g, hg⟩ := h.origin hkept
    have hfresh := hg.fresh
    unfold Fresh at hfresh
    rw [hg.pc_eq, hg.block_eq] at hfresh
    exact ⟨g.machine.memory, hfresh⟩

end Fetch

/-! ## The invariant of the cache -/

/-- Every block in a cache has an origin. -/
def Cache.Explained (log : List Fetch) (loaded made : Option Memory) (c : Cache) : Prop :=
  ∀ (pc : UInt32) (b : Block), c.blocks[pc]? = some b → ∃ g, Fetch.Origin log loaded made pc b g

namespace Cache

variable {log : List Fetch} {loaded made : Option Memory} {c c' : Cache}

theorem Explained.mono (h : c.Explained log loaded made) {log' : List Fetch}
    (hlog : ∀ g ∈ log, g ∈ log') : c.Explained log' loaded made := by
  intro pc b hb
  obtain ⟨g, hg⟩ := h pc b hb
  exact ⟨g, hg.mono hlog⟩

theorem Explained.of_blocks (h : c.Explained log loaded made) (hc : c'.blocks = c.blocks) :
    c'.Explained log loaded made := by
  intro pc b hb
  rw [hc] at hb
  exact h pc b hb

/-- A newly formed block explains itself. -/
theorem Explained.insert (h : c.Explained log loaded made) {f : Fetch} (hf : f.Accounted log)
    (hkept : f.kept = false) (hloaded : f.loaded = loaded) (hmade : made = some f.machine.story)
    (hc : c'.blocks = c.blocks.insert f.block.pc f.block) :
    c'.Explained (log ++ [f]) loaded made := by
  intro pc b hb
  rw [hc, Std.TreeMap.getElem?_insert] at hb
  by_cases hpc : compare f.block.pc pc = .eq
  · rw [if_pos hpc] at hb
    cases hb
    have hstart : f.block.pc = f.pc := (Block.compile_eq_ok (hf.fresh hkept)).1
    exact ⟨f, {
      mem := by simp
      formed := hkept
      pc_eq := hstart.symm.trans (Std.LawfulEqOrd.eq_of_compare hpc)
      block_eq := rfl
      loaded_eq := hloaded
      sound := hf.sound
      fresh := hf.fresh hkept
      current := fun hnow => hmade.trans hnow.symm }⟩
  · rw [if_neg hpc] at hb
    obtain ⟨g, hg⟩ := h pc b hb
    exact ⟨g, hg.mono (fun g hg => List.mem_append_left _ hg)⟩

end Cache

namespace Run

/-- What a turn leaves of the cache and of the machine after the block was fetched. -/
theorem turn_after_fetch (config : Config) {run next : Run} {b : Block}
    (h : fetch run = .ok b next) :
    (endState (turn config run)).cache = next.cache ∧
      (endState (turn config run)).context.machine.origin = run.context.machine.origin := by
  have hrest : Keeps (fun run : Run => (run.context.machine.origin, run.cache)) (do
      execute config b
      takeControl) :=
    keeps_bind ((execute_keeps config b).comp (fun k => ((k.1.1, k.1.2.1, k.1.2.2.2), k.2)))
      (fun _ => takeControl_keeps)
  have hturn : turn config run = (do
      execute config b
      takeControl) next := by
    unfold turn
    rw [bind_ok h]
  refine ⟨?_, turn_keeps_origin config run⟩
  rw [hturn]
  exact congrArg Prod.snd (hrest next)

/-- One fetch of a run is accounted for, and the cache stays explained. -/
theorem fetch_explained {log : List Fetch} {loaded : Option Memory} (config : Config)
    {run next : Run} {b : Block}
    (hsound : run.context.machine.Sound)
    (hcache : run.cache.Explained log loaded (some run.context.machine.story))
    (h : fetch run = .ok b next) :
    let f : Fetch := ⟨loaded, config, next.context, b, run.cache.contains run.context.machine.pc⟩
    f.Accounted log ∧ next.cache.Explained (log ++ [f]) loaded (some run.context.machine.story) := by
  intro f
  have hmachine : f.machine = run.context.machine := fetch_keeps.of_ok h
  have hcontains : f.kept = (run.cache.blocks[run.context.machine.pc]?).isSome :=
    Std.TreeMap.contains_eq_isSome_getElem?
  have hfsound : f.machine.Sound := hmachine ▸ hsound
  rcases fetch_cases run with ⟨b', next', hkept, hfetch, -, hblocks⟩ |
    ⟨b', next', hkept, hb, hfetch, -, hblocks⟩ | ⟨fault, next', hfetch, -⟩
  · rw [h] at hfetch
    cases hfetch
    rw [hkept] at hcontains
    obtain ⟨g, hg⟩ := hcache _ _ hkept
    have horigin : Fetch.Origin log loaded (some f.machine.story) f.machine.pc b g := by
      rw [hmachine]
      exact hg
    refine ⟨⟨hfsound, fun hf => ?_, fun _ => ⟨g, horigin⟩⟩, ?_⟩
    · rw [hf] at hcontains
      cases hcontains
    · exact (hcache.of_blocks hblocks).mono (fun g hg => List.mem_append_left _ hg)
  · rw [h] at hfetch
    cases hfetch
    rw [hkept] at hcontains
    have hfresh : f.Fresh := by
      show Block.compile f.machine.memory f.machine.pc = .ok b
      rw [hmachine]
      exact hb
    have hf : f.Accounted log := by
      refine ⟨hfsound, fun _ => hfresh, fun hf => ?_⟩
      rw [hf] at hcontains
      cases hcontains
    exact ⟨hf, hcache.insert hf hcontains rfl (by rw [hmachine]) hblocks⟩
  · rw [h] at hfetch
    cases hfetch

/-- A fetch that fails leaves the cache explained. -/
theorem fetch_error_explained {log : List Fetch} {loaded made : Option Memory} {run next : Run}
    {fault : Fault} (hcache : run.cache.Explained log loaded made)
    (h : fetch run = .error fault next) : next.cache.Explained log loaded made := by
  rcases fetch_cases run with ⟨b, next', -, hfetch, -⟩ | ⟨b, next', -, -, hfetch, -⟩ |
    ⟨fault', next', hfetch, -, hblocks⟩
  · rw [h] at hfetch
    cases hfetch
  · rw [h] at hfetch
    cases hfetch
  · rw [h] at hfetch
    cases hfetch
    exact hcache.of_blocks hblocks

/-- Every fetch of a run is accounted for, and the cache stays explained. -/
theorem fetches_explained (loaded : Option Memory) (config : Config) (units : Nat) :
    ∀ (log : List Fetch) (run : Run), run.context.machine.Sound →
      run.cache.Explained log loaded (some run.context.machine.story) →
      Fetch.AllAccounted log (run.fetches loaded config units) ∧
        (endState (loop config units run)).cache.Explained
          (log ++ run.fetches loaded config units) loaded (some run.context.machine.story) := by
  induction units with
  | zero =>
    intro log run _ hcache
    refine ⟨trivial, ?_⟩
    show run.cache.Explained (log ++ []) loaded _
    rwa [List.append_nil]
  | succ units ih =>
    intro log run hsound hcache
    unfold fetches loop
    cases hfetch : fetch run with
    | error e next =>
      have hturn : turn config run = .error e next := bind_error hfetch
      rw [bind_error hturn]
      refine ⟨trivial, ?_⟩
      dsimp only [endState_error]
      rw [List.append_nil]
      exact fetch_error_explained hcache hfetch
    | ok b next =>
      dsimp only
      obtain ⟨haccounted, hnext⟩ := fetch_explained config hsound hcache hfetch
      obtain ⟨hturncache, hturnorigin⟩ := turn_after_fetch config hfetch
      cases hturn : turn config run with
      | error e last =>
        rw [hturn] at hturncache
        rw [bind_error hturn]
        exact ⟨⟨haccounted, trivial⟩, hturncache ▸ hnext⟩
      | ok control last =>
        rw [hturn] at hturncache hturnorigin
        rw [bind_ok hturn]
        cases control with
        | some control => exact ⟨⟨haccounted, trivial⟩, hturncache ▸ hnext⟩
        | none =>
          have hstory : last.context.machine.story = run.context.machine.story :=
            congrArg (·.2.1) hturnorigin
          have hlast : last.cache = next.cache := hturncache
          have hrest := ih (log ++ [_]) last (hsound.of_origin hturnorigin)
            (by rw [hlast, hstory]; exact hnext)
          rw [hstory, List.append_assoc] at hrest
          exact ⟨⟨haccounted, hrest.1⟩, hrest.2⟩

end Run

namespace Engine

/-- The machine is sound, and every block in the cache has an origin in the log. -/
structure Explained (log : List Fetch) (e : Engine) : Prop where
  sound : ∀ s, e.machine = some s → s.Sound
  cache : e.cache.Explained log e.story (e.machine.map (·.story))

theorem ofConfig_explained (config : Config) (entropy : Entropy) :
    Explained [] (ofConfig config entropy) where
  sound := fun s hs => by cases hs
  cache := fun pc b hb => by
    have hnone : (ofConfig config entropy).cache.blocks[pc]? = none :=
      Std.TreeMap.getElem?_emptyc
    rw [hnone] at hb
    cases hb

/-- Beginning an event keeps the blocks explained. -/
theorem begin_explained {log : List Fetch} {e : Engine} (h : Explained log e)
    (envelope : Envelope) : Explained log (endState (begin envelope e)) := by
  rcases begin_cases envelope e with
    ⟨data, e', hbegin, hmachine, hstory, hcache⟩ |
    ⟨story, s, hloaded, hsound, hof, hmachine, hstory, hcache⟩ | hcore
  · rw [hbegin, endState_ok]
    refine ⟨fun s hs => h.sound s (hmachine ▸ hs), ?_⟩
    rcases hcache with ⟨hsame, hcache⟩ | hempty
    · rw [hsame, hcache, hmachine]
      exact h.cache
    · intro pc b hb
      rw [hempty pc] at hb
      cases hb
  · refine ⟨fun s' hs' => ?_, ?_⟩
    · rw [hmachine] at hs'
      cases hs'
      exact hsound
    · rw [hstory, hcache, hmachine]
      intro pc b hb
      obtain ⟨g, hg⟩ := h.cache pc b hb
      refine ⟨g, { hg with current := fun _ => ?_ }⟩
      rw [hloaded, ← hof]
      rfl
  · simp only [core, Prod.mk.injEq] at hcore
    obtain ⟨hstory, hcache, horigin⟩ := hcore
    have hmade : (endState (begin envelope e)).machine.map (·.story) = e.machine.map (·.story) := by
      have := congrArg (Option.map (·.2.1)) horigin
      simpa [Machine.identity, Function.comp_def] using this
    refine ⟨fun s' hs' => ?_, ?_⟩
    · rw [hs'] at horigin
      cases hs : e.machine with
      | none =>
        rw [hs] at horigin
        cases horigin
      | some s =>
        rw [hs] at horigin
        exact (h.sound s hs).of_origin (Machine.origin_of_identity (Option.some.inj horigin))
    · rw [hstory, hcache, hmade]
      exact h.cache

/-- Running accounts for the fetches and keeps the blocks explained. -/
theorem run_explained {log : List Fetch} {e : Engine} (h : Explained log e) {r : Run}
    (hrun : e.toRun? = some r) (units : Nat) :
    Fetch.AllAccounted log (r.fetches e.story e.config units) ∧
      Explained (log ++ r.fetches e.story e.config units) (endState (run units e)) := by
  obtain ⟨s, hs, hr⟩ := toRun?_eq_some hrun
  have hcache : r.cache.Explained log e.story (some r.context.machine.story) := by
    have := h.cache
    rw [hs] at this
    rw [hr]
    exact this
  have hsound : r.context.machine.Sound := by
    rw [hr]
    exact h.sound s hs
  obtain ⟨haccounted, hlast⟩ := Run.fetches_explained e.story e.config units log r hsound hcache
  obtain ⟨s', hs', horigin, hstory, hkept⟩ := run_leaves hrun units
  have hmade : s'.story = r.context.machine.story := congrArg (·.2.1) horigin
  refine ⟨haccounted, fun s'' hs'' => ?_, ?_⟩
  · obtain rfl : s' = s'' := Option.some.inj (hs'.symm.trans hs'')
    exact hsound.of_origin horigin
  · rw [hs', hstory, hkept]
    show Cache.Explained _ e.story (some s'.story) _
    rw [hmade]
    exact hlast

/-- Handling an event accounts for its fetches and keeps the blocks explained. -/
theorem handleWithin_explained {log : List Fetch} {e : Engine} (h : Explained log e)
    (units : Config → Nat) (envelope : Envelope) :
    Fetch.AllAccounted log (fetches units envelope e) ∧
      Explained (log ++ fetches units envelope e) (endState (handleWithin units envelope e)) := by
  have hbegin := begin_explained h envelope
  rw [handleWithin_eq]
  unfold fetches
  cases hb : begin envelope e with
  | error fault e' =>
    rw [hb] at hbegin
    rw [bind_error hb]
    refine ⟨trivial, ?_⟩
    dsimp only [endState_error] at hbegin ⊢
    rwa [List.append_nil]
  | ok runs e' =>
    rw [hb, endState_ok] at hbegin
    rw [bind_ok hb]
    cases runs with
    | false =>
      refine ⟨trivial, ?_⟩
      show Explained (log ++ []) e'
      rwa [List.append_nil]
    | true =>
      dsimp only
      rw [if_pos rfl, get_bind]
      cases hrun : e'.toRun? with
      | none =>
        have hmachine : e'.machine = none := by
          simpa [toRun?] using hrun
        refine ⟨trivial, ?_⟩
        dsimp only
        rw [List.append_nil, run_none hmachine]
        exact ⟨hbegin.sound, hbegin.cache⟩
      | some r => exact run_explained hbegin hrun (units e'.config)

/-- Every block that is executed in the course of events is accounted for. -/
theorem history_explained (turns : List Turn) :
    ∀ (log : List Fetch) (e : Engine), Explained log e →
      Fetch.AllAccounted log (history turns e) ∧ Explained (log ++ history turns e) (after turns e) := by
  induction turns with
  | nil =>
    intro log e h
    refine ⟨trivial, ?_⟩
    show Explained (log ++ []) e
    rwa [List.append_nil]
  | cons t rest ih =>
    intro log e h
    obtain ⟨hfirst, hnext⟩ := handleWithin_explained h t.1 t.2
    obtain ⟨hrest, hlast⟩ := ih _ _ hnext
    rw [List.append_assoc] at hlast
    exact ⟨Fetch.allAccounted_append hfirst hrest, hlast⟩

/-! ## When a kept block is the right one -/

/-- Where static memory is that of the story, a block that starts there is the story's. -/
theorem compile_story_iff {f : Fetch} (hsound : f.machine.Sound) (hintact : f.Intact)
    {pc : UInt32} (hpc : f.machine.header.staticMemory ≤ pc.toNat)
    (hlt : f.machine.story.size < 2 ^ 32) (b : Block) :
    Block.compile f.machine.memory pc = .ok b ↔ Block.compile f.machine.story pc = .ok b := by
  have hsize : f.machine.memory.size = f.machine.story.size := hsound.2
  constructor
  · intro h
    exact Block.compile_agree h (hsize ▸ hintact.symm) hsize.symm (hsize ▸ hlt) hpc
  · intro h
    exact Block.compile_agree h hintact hsize hlt hpc

/-- A block that is taken from the cache was formed by an earlier fetch at the same address, while
the same story was loaded.  It is the block that would be formed now just if the two memories
compile alike at the address; for static memory that is as in the stories, just if the two stories
do.  So it is the right one if both machines were made from one story, which they were if the first
one was made from the story that was loaded. -/
theorem kept_fetch_fresh_iff (config : Config) (entropy : Entropy) (turns : List Turn)
    (pre post : List Fetch) (f : Fetch)
    (h : history turns (ofConfig config entropy) = pre ++ f :: post) (hkept : f.kept = true) :
    ∃ g ∈ pre, g.kept = false ∧ g.pc = f.pc ∧ g.block = f.block ∧ g.loaded = f.loaded ∧ g.Fresh ∧
      (f.Fresh ↔ Block.compile f.machine.memory f.pc = Block.compile g.machine.memory f.pc) ∧
      (g.loaded = some g.machine.story → f.machine.story = g.machine.story) ∧
      (g.Intact → f.Intact →
        f.machine.header.staticMemory ≤ f.pc.toNat → f.machine.story.size < 2 ^ 32 →
        (f.machine.story = g.machine.story → f.Fresh) ∧
        (g.machine.header.staticMemory ≤ f.pc.toNat → g.machine.story.size < 2 ^ 32 →
          (f.Fresh ↔
            Block.compile f.machine.story f.pc = Block.compile g.machine.story f.pc))) := by
  have hall := (history_explained turns [] _ (ofConfig_explained config entropy)).1
  rw [h] at hall
  have hf := hall.accounted
  rw [List.nil_append] at hf
  obtain ⟨g, hg⟩ := hf.origin hkept
  have hcompile : Block.compile g.machine.memory f.pc = .ok f.block := by
    have hfresh := hg.fresh
    unfold Fetch.Fresh at hfresh
    rwa [hg.pc_eq, hg.block_eq] at hfresh
  refine ⟨g, hg.mem, hg.formed, hg.pc_eq, hg.block_eq, hg.loaded_eq, hg.fresh, ?_, ?_, ?_⟩
  · unfold Fetch.Fresh
    rw [hcompile]
  · intro hmade
    have hcurrent := hg.current (hg.loaded_eq ▸ hmade)
    rw [← hg.loaded_eq, hmade] at hcurrent
    exact Option.some.inj hcurrent
  · intro hgintact hfintact hpc hlt
    have hstories (hgpc : g.machine.header.staticMemory ≤ f.pc.toNat)
        (hglt : g.machine.story.size < 2 ^ 32) :
        f.Fresh ↔ Block.compile f.machine.story f.pc = Block.compile g.machine.story f.pc := by
      unfold Fetch.Fresh
      rw [compile_story_iff hf.sound hfintact hpc hlt,
        (compile_story_iff hg.sound hgintact hgpc hglt _).1 hcompile]
    refine ⟨fun hstory => ?_, hstories⟩
    have hheader := hf.sound.header_eq hg.sound hstory
    exact (hstories (hheader ▸ hpc) (hstory ▸ hlt)).2 (by rw [hstory])

/-! ## A loop, and another story in its place -/

/-- A story that jumps back to its start is loaded, started and resumed. -/
def loopTurns : List Turn :=
  oneByOne [.load (storyOf [0x8C, 0xFF, 0xFF]), .restart, .resume none]

theorem kept_fetch_fresh_loop :
    ∃ g f, history loopTurns (ofConfig {} ⟨0⟩) = [g, f] ∧ f.kept = true ∧
      f.machine.story = g.machine.story ∧ g.Intact ∧ f.Intact ∧
      f.machine.header.staticMemory ≤ f.pc.toNat ∧ f.machine.story.size < 2 ^ 32 ∧ f.Fresh := by
  have hkept : (history loopTurns (ofConfig {} ⟨0⟩)).map Fetch.kept = [false, true] := by
    decide +kernel
  have hall : ∀ f ∈ history loopTurns (ofConfig {} ⟨0⟩), f.loaded = some f.machine.story ∧
      f.Intact ∧ f.machine.header.staticMemory ≤ f.pc.toNat ∧
      f.machine.story.size < 2 ^ 32 := by
    decide +kernel
  obtain ⟨g, rest, hlog, -, hrest⟩ := List.map_eq_cons_iff.1 hkept
  obtain ⟨f, rest, rfl, hf, hnil⟩ := List.map_eq_cons_iff.1 hrest
  obtain rfl := List.map_eq_nil_iff.1 hnil
  rw [hlog] at hall
  obtain ⟨hgloaded, hgintact, -⟩ := hall g (by simp)
  obtain ⟨-, hfintact, hpc, hsize⟩ := hall f (by simp)
  obtain ⟨g', hg', -, -, -, -, -, -, hsame, hfresh⟩ :=
    kept_fetch_fresh_iff {} ⟨0⟩ loopTurns [g] [] f hlog hf
  obtain rfl := List.mem_singleton.1 hg'
  have hstory := hsame hgloaded
  exact ⟨g', f, hlog, hf, hstory, hgintact, hfintact, hpc, hsize,
    (hfresh hgintact hfintact hpc hsize).1 hstory⟩

/-- The story that loops is loaded and started.  A story that quits is loaded, but the machine goes
on with the loop before it is started again. -/
def replacedTurns : List Turn :=
  oneByOne [.load (storyOf [0x8C, 0xFF, 0xFF]), .restart, .load (storyOf [0xBA, 0, 0]),
    .resume none, .restart]

/-- The block of the loop is then executed in place of that of the story that quits. -/
theorem kept_fetch_not_always_fresh :
    ¬ ∀ (config : Config) (entropy : Entropy) (turns : List Turn),
      ∀ f ∈ history turns (ofConfig config entropy), f.kept = true → f.Intact →
        f.machine.header.staticMemory ≤ f.pc.toNat → f.Fresh := by
  intro h
  have hstale : ∃ f ∈ history replacedTurns (ofConfig {} ⟨0⟩), f.kept = true ∧ f.Intact ∧
      f.machine.header.staticMemory ≤ f.pc.toNat ∧ ¬ f.Fresh := by
    decide +kernel
  obtain ⟨f, hf, hkept, hintact, hpc, hfresh⟩ := hstale
  exact hfresh (h {} ⟨0⟩ replacedTurns f hf hkept hintact hpc)

end Engine
end ZMachine
