import ZMachine.Proofs.Engine.Saving
import ZMachine.Proofs.Undo

/-!
# Checkpoints

What is executed is told as a list of visits, each an instruction with the context it is performed in.
Some of the saves among them stand, the newest first:

    v saves         saves ↦ v :: saves
    v goes back     save :: saves ↦ saves

The undo history holds the checkpoints of the newest saves that stand, as many as there is room for,
and all of them are of the machine's own story and size.  Every instruction preserves this, and one that
goes back ends in the machine of the newest save that stands:

    u.entries = save.checkpoint :: rest   →   (syncHeader, then store 2) save.machine

The 2 can be stored because the 1 of the save could: the stack is the same again, and the size of the
memory has not changed.
-/

namespace ZMachine

/-! ## Storing once more -/

theorem Stack.push_again {value : UInt16} {s t : Stack} (h : push value s = .ok () t)
    (value' : UInt16) : ∃ t', push value' s = .ok () t' := by
  unfold push at h ⊢
  by_cases hroom : s.values.size < maxValues
  · rw [if_pos hroom]
    exact ⟨_, rfl⟩
  · rw [if_neg hroom] at h
    cases h

theorem Stack.setLocal_again {index : UInt8} {value : UInt16} {s t : Stack}
    (h : setLocal index value s = .ok () t) (value' : UInt16) :
    ∃ t', setLocal index value' s = .ok () t' := by
  unfold setLocal at h ⊢
  cases hframes : s.frames with
  | nil =>
    rw [hframes] at h
    cases h
  | cons f rest =>
    rw [hframes] at h
    dsimp only at h ⊢
    by_cases hindex : index.toNat < f.locals.length
    · rw [if_pos hindex]
      exact ⟨_, rfl⟩
    · rw [if_neg hindex] at h
      cases h

theorem Memory.write16_again {address : Nat} {value : UInt16} {m m' n : Memory}
    (h : write16 address value m = .ok () n) (hsize : m'.size = m.size) (value' : UInt16) :
    ∃ n', write16 address value' m' = .ok () n' := by
  by_cases hin : address + 1 < m.size
  · exact ⟨_, write16_of_lt (hsize ▸ hin) value'⟩
  · rw [write16_of_not_lt hin] at h
    cases h

namespace Machine

/-- Where a result was stored, another one can be stored on any machine with the same stack, header
and size. -/
theorem store_again {storer : Option Variable} {value : UInt16} {s t : Machine}
    (h : store storer value s = .ok () t) (s' : Machine) (hstack : s'.stack = s.stack)
    (hheader : s'.header = s.header) (hsize : s'.memory.size = s.memory.size) (value' : UInt16) :
    ∃ t', store storer value' s' = .ok () t' := by
  cases storer with
  | none => exact ⟨s', rfl⟩
  | some v =>
    change writeVar v value s = _ at h
    show ∃ t', writeVar v value' s' = _
    unfold writeVar at h ⊢
    by_cases hpush : v.number = 0
    · rw [if_pos hpush] at h
      obtain ⟨u, hu, -⟩ := onStack_eq_ok h
      obtain ⟨u', hu'⟩ := Stack.push_again hu value'
      rw [if_pos hpush, onStack_run, hstack, hu']
      exact ⟨_, rfl⟩
    rw [if_neg hpush] at h ⊢
    by_cases hlocal : v.number < 16
    · rw [if_pos hlocal] at h
      obtain ⟨u, hu, -⟩ := onStack_eq_ok h
      obtain ⟨u', hu'⟩ := Stack.setLocal_again hu value'
      rw [if_pos hlocal, onStack_run, hstack, hu']
      exact ⟨_, rfl⟩
    · rw [if_neg hlocal, get_bind] at h
      obtain ⟨m, hm, -⟩ := onMemory_eq_ok h
      obtain ⟨m', hm'⟩ := Memory.write16_again hm hsize value'
      rw [if_neg hlocal, get_bind, onMemory_run, hheader, hm']
      exact ⟨_, rfl⟩

theorem store_keeps_identity (storer : Option Variable) (value : UInt16) :
    Keeps identity (store storer value) :=
  (store_makes storer value).keeps (fun _ _ h => congrArg Prod.fst h.setting_eq)

end Machine

/-! ## Visits -/

/-- An instruction that is executed: the values of its operands and the context in which it is
performed. -/
structure Visit where
  config : Config
  instruction : Instruction
  operands : List UInt16
  context : Context

namespace Visit

/-- What the instruction does. -/
def performed (v : Visit) : EStateM.Result Fault Context Unit :=
  v.instruction.perform v.config v.operands v.context

/-- The checkpoint of a save. -/
def checkpoint (v : Visit) : Snapshot :=
  .capture v.context.machine v.instruction.store

/-- The saves that stand after one more instruction. -/
def stand (saves : List Visit) (v : Visit) : List Visit :=
  match v.instruction.opcode with
  | .saveUndo => v :: saves
  | .restoreUndo => saves.tail
  | _ => saves

/-- The saves that stand after some more instructions, the newest first. -/
def standing (saves : List Visit) (visits : List Visit) : List Visit :=
  visits.foldl stand saves

theorem standing_append (saves before later : List Visit) :
    standing saves (before ++ later) = standing (standing saves before) later :=
  List.foldl_append

theorem standing_save {v : Visit} (h : v.instruction.opcode = .saveUndo) (saves : List Visit) :
    standing saves [v] = v :: saves := by
  show stand saves v = _
  unfold stand
  rw [h]

theorem standing_back {v : Visit} (h : v.instruction.opcode = .restoreUndo) (saves : List Visit) :
    standing saves [v] = saves.tail := by
  show stand saves v = _
  unfold stand
  rw [h]

theorem standing_other {v : Visit} (hsave : v.instruction.opcode ≠ .saveUndo)
    (hback : v.instruction.opcode ≠ .restoreUndo) (saves : List Visit) :
    standing saves [v] = saves := by
  show stand saves v = _
  unfold stand
  split
  · next hop => exact absurd hop hsave
  · next hop => exact absurd hop hback
  · rfl

/-- The result of a save was stored. -/
def Stored (v : Visit) : Prop :=
  ∃ s, Machine.store v.instruction.store 1 v.context.machine = .ok () s

/-- A save that was executed on a running machine of the same story and size. -/
structure Saved (v : Visit) (s : Machine) : Prop where
  opcode : v.instruction.opcode = .saveUndo
  pc : v.context.machine.pc = v.instruction.next
  origin : v.context.machine.origin = s.origin
  running : v.context.machine.halted = false

/-- The checkpoint of such a save belongs to the story and has the size of the memory. -/
theorem Saved.matching {v : Visit} {s : Machine} (h : v.Saved s) :
    v.checkpoint.belongsTo s.header = true ∧ v.checkpoint.memory.size = s.memory.size := by
  have horigin := h.origin
  simp only [Machine.origin, Prod.mk.injEq] at horigin
  obtain ⟨hheader, -, hsize⟩ := horigin
  rw [← hheader]
  exact ⟨Snapshot.belongsTo_capture v.context.machine v.instruction.store, hsize⟩

/-- How an instruction goes back.  Without a checkpoint it only stores 0.  Else it takes the newest one
from the history and completes: the machine is the one on which the newest save that stands was
performed, with the header brought up to date and a 2 where that save stores its result. -/
def GoesBack (saves : List Visit) (v : Visit) : Prop :=
  match v.context.undo.entries with
  | [] => v.performed = Context.store v.instruction.store 0 v.context
  | p :: rest => ∃ save older s, saves = save :: older ∧ p = save.checkpoint ∧
      save.instruction.opcode = .saveUndo ∧ save.context.machine.pc = save.instruction.next ∧
      (do Machine.syncHeader v.config
          Machine.store save.instruction.store 2) save.context.machine = .ok () s ∧
      v.performed = .ok () { v.context with
        machine := s
        undo := { v.context.undo with entries := rest } }

/-- Every instruction among these that goes back does so in this way. -/
def AllGoBack (saves visits : List Visit) : Prop :=
  ∀ before v later, visits = before ++ v :: later → v.instruction.opcode = .restoreUndo →
    v.GoesBack (standing saves before)

theorem allGoBack_nil (saves : List Visit) : AllGoBack saves [] := by
  intro before v later h
  simp at h

theorem allGoBack_singleton {saves : List Visit} {v : Visit}
    (h : v.instruction.opcode = .restoreUndo → v.GoesBack saves) : AllGoBack saves [v] := by
  intro before w later hsplit
  obtain ⟨rfl, hw⟩ | ⟨rfl, -⟩ := List.singleton_eq_append_iff.1 hsplit
  · cases hw
    exact h
  · simp at hsplit

theorem AllGoBack.append {saves first second : List Visit} (h : AllGoBack saves first)
    (h' : AllGoBack (standing saves first) second) : AllGoBack saves (first ++ second) := by
  intro before v later hsplit
  rcases List.append_eq_append_iff.1 hsplit with ⟨middle, rfl, hsecond⟩ | ⟨middle, hfirst, hrest⟩
  · rw [standing_append]
    exact h' middle v later hsecond
  · cases middle with
    | nil =>
      rw [List.append_nil] at hfirst
      subst hfirst
      exact h' [] v later hrest.symm
    | cons w middle =>
      cases hrest
      exact h before v middle hfirst

end Visit

open Visit

/-- The visit of an instruction, unless its operands have no values. -/
def Instruction.visits (config : Config) (i : Instruction) (c : Context) : List Visit :=
  match operandValues i.operands { c with machine.pc := i.next } with
  | .ok operands c' => [⟨config, i, operands, c'⟩]
  | .error _ _ => []

/-- The visits of instructions that are executed in turn. -/
def Block.visits (config : Config) : List Instruction → Context → List Visit
  | [], _ => []
  | i :: rest, c =>
    i.visits config c ++ match i.proceed config c with
      | .ok _ c' => visits config rest c'
      | .error _ _ => []

/-! ## The history and the saves that stand -/

namespace Undo

/-- The history of a machine holds checkpoints of the newest saves that stand, and the header of the
machine can be brought up to date. -/
structure Follows (u : Undo) (s : Machine) (saves : List Visit) : Prop where
  entries : u.entries <+: saves.map checkpoint
  saved : ∀ v ∈ saves, v.Saved s
  large : Layout.size ≤ s.memory.size
  fit : s.header.FlagsFit s.memory.size

variable {u : Undo} {s s' : Machine} {saves : List Visit}

theorem Follows.of_origin (h : u.Follows s saves) (ho : s'.origin = s.origin) :
    u.Follows s' saves := by
  obtain ⟨hentries, hsaved, hlarge, hfit⟩ := h
  refine ⟨hentries, fun v hv => ?_, ?_, ?_⟩
  · obtain ⟨hop, hpc, horigin, hrunning⟩ := hsaved v hv
    exact ⟨hop, hpc, horigin.trans ho.symm, hrunning⟩
  all_goals
    simp only [Machine.origin, Prod.mk.injEq] at ho
    obtain ⟨hheader, -, hsize⟩ := ho
  · rwa [hsize]
  · rwa [hheader, hsize]

theorem Follows.setDepth (h : u.Follows s saves) (depth : Nat) :
    (u.setDepth depth).Follows s saves :=
  ⟨(List.take_prefix _ _).trans h.entries, h.saved, h.large, h.fit⟩

theorem Follows.push (h : u.Follows s saves) {v : Visit} (hv : v.Saved s) :
    (u.push v.checkpoint).Follows s (v :: saves) := by
  obtain ⟨kept, hkept, hentries⟩ := push_entries u v.checkpoint
  refine ⟨?_, fun w hw => ?_, h.large, h.fit⟩
  · rw [hentries]
    exact (List.prefix_cons_inj _).2 (hkept.trans h.entries)
  · rcases List.mem_cons.1 hw with rfl | hrest
    · exact hv
    · exact h.saved w hrest

theorem Follows.tail (h : u.Follows s saves) (hempty : u.entries = []) : u.Follows s saves.tail :=
  ⟨hempty ▸ List.nil_prefix, fun v hv => h.saved v (List.mem_of_mem_tail hv), h.large, h.fit⟩

/-- The newest checkpoint is that of the newest save. -/
theorem Follows.uncons (h : u.Follows s saves) {p : Snapshot} {rest : List Snapshot}
    (hentries : u.entries = p :: rest) :
    ∃ save older, saves = save :: older ∧ p = save.checkpoint ∧
      { u with entries := rest }.Follows s older := by
  have hprefix := h.entries
  rw [hentries] at hprefix
  cases saves with
  | nil => simp at hprefix
  | cons save older =>
    obtain ⟨rfl, hrest⟩ := List.cons_prefix_cons.1 hprefix
    exact ⟨save, older, rfl, rfl, hrest, fun v hv => h.saved v (List.mem_cons_of_mem _ hv), h.large,
      h.fit⟩

/-- Every checkpoint belongs to the story of the machine and has the size of its memory. -/
theorem Follows.matching (h : u.Follows s saves) {p : Snapshot} (hp : p ∈ u.entries) :
    p.belongsTo s.header = true ∧ p.memory.size = s.memory.size := by
  obtain ⟨v, hv, rfl⟩ := List.mem_map.1 (h.entries.subset hp)
  exact (h.saved v hv).matching

end Undo

/-! ## Going back -/

/-- A running machine is put back to a save that stands, its header is brought up to date and the 2 is
stored. -/
theorem Visit.Saved.back {v : Visit} {s : Machine} (h : v.Saved s) (hstored : v.Stored)
    (hrunning : s.halted = false) (hlarge : Layout.size ≤ s.memory.size)
    (hfit : s.header.FlagsFit s.memory.size) (config : Config) :
    ∃ s₁ s₂, v.checkpoint.apply s = .ok () { v.context.machine with random := s.random } ∧
      Machine.syncHeader config v.context.machine = .ok () s₁ ∧
      Machine.store v.instruction.store 2 s₁ = .ok () s₂ ∧ s₂.identity = s.identity := by
  have horigin := h.origin
  simp only [Machine.origin, Prod.mk.injEq] at horigin
  obtain ⟨hheader, hstory, hsize⟩ := horigin
  have hidentity : s.identity = v.context.machine.identity := by
    unfold Machine.identity
    rw [hheader, hstory, hsize, h.running, hrunning]
  have happly : v.checkpoint.apply s = .ok () { v.context.machine with random := s.random } := by
    rcases v.checkpoint.apply_cases s with ⟨fault, hrefused, -⟩ | ⟨-, happlied⟩
    · exact absurd h.matching hrefused
    · rw [happlied]
      exact congrArg _ (Machine.onto_capture hidentity _)
  rw [← hsize] at hlarge
  rw [← hheader, ← hsize] at hfit
  obtain ⟨memory, hsync, hmemory, -⟩ := Machine.syncHeader_eq_ok hlarge hfit config
  obtain ⟨t, ht⟩ := hstored
  obtain ⟨s₂, hstore⟩ :=
    Machine.store_again ht { v.context.machine with random := {}, memory } rfl rfl hmemory 2
  refine ⟨_, s₂, happly, hsync, hstore, ?_⟩
  rw [(Machine.store_keeps_identity _ 2).of_ok hstore, hidentity]
  exact congrArg (fun size => (v.context.machine.header, v.context.machine.story,
    v.context.machine.halted, size)) hmemory

namespace Context

/-- The history follows the saves that stand, and the results of these were stored. -/
structure Tracks (c : Context) (saves : List Visit) : Prop where
  follows : c.undo.Follows c.machine saves
  running : c.machine.halted = false
  stored : ∀ v ∈ saves, v.Stored

variable {α : Type} {c c' : Context} {saves : List Visit}

/-- How an action that tracks the saves ends: if it faults, the last result may be missing. -/
def EndsWith (saves : List Visit) : EStateM.Result Fault Context α → Prop
  | .ok _ c => c.Tracks saves
  | .error _ c => c.undo.Follows c.machine saves

/-- Actions that leave the history alone. -/
theorem Tracks.endsWith (h : c.Tracks saves) {x : Exec α} (hidentity : Keeps identity x)
    (hundo : Keeps Context.undo x) : EndsWith saves (x c) := by
  have hid := hidentity c
  have hu := hundo c
  cases hx : x c with
  | ok a c' =>
    rw [hx, endState_ok] at hid hu
    refine ⟨?_, ?_, h.stored⟩
    · exact hu ▸ h.follows.of_origin (Machine.origin_of_identity hid)
    · rw [← h.running]
      exact congrArg (·.2.2.1) hid
  | error e c' =>
    rw [hx, endState_error] at hid hu
    show c'.undo.Follows c'.machine saves
    exact hu ▸ h.follows.of_origin (Machine.origin_of_identity hid)

/-! ## The history and the operations -/

theorem Change.undo_eq (h : Change c c') : c'.undo = c.undo := by
  cases h <;> rfl

/-- A save stands from now on, even if its result cannot be stored. -/
theorem saveUndo_endsWith {v : Visit} (h : v.context.Tracks saves)
    (hop : v.instruction.opcode = .saveUndo) (hpc : v.context.machine.pc = v.instruction.next) :
    EndsWith (v :: saves) (saveUndo v.instruction.store v.context) := by
  have hfollows := h.follows.push (v := v) ⟨hop, hpc, rfl, h.running⟩
  have hkept := Machine.store_keeps_identity v.instruction.store 1
  show EndsWith (v :: saves) (store v.instruction.store 1
    { v.context with undo := v.context.undo.push v.checkpoint })
  unfold store
  rw [onMachine_run]
  dsimp only
  cases hstore : Machine.store v.instruction.store 1 v.context.machine with
  | ok u s =>
    have hidentity := hkept.of_ok hstore
    refine ⟨hfollows.of_origin (Machine.origin_of_identity hidentity), ?_, ?_⟩
    · rw [← h.running]
      exact congrArg (·.2.2.1) hidentity
    · intro w hw
      rcases List.mem_cons.1 hw with rfl | hrest
      · exact ⟨s, hstore⟩
      · exact h.stored w hrest
  | error e s =>
    exact hfollows.of_origin (Machine.origin_of_identity (hkept.of_error hstore))

/-- Without a checkpoint a 0 is stored. -/
theorem restoreUndo_of_nil (config : Config) (storer : Option Variable)
    (h : c.undo.entries = []) : restoreUndo config storer c = store storer 0 c := by
  unfold restoreUndo
  rw [get_bind, Undo.pop_eq_none.2 h]

/-- The newest checkpoint is put in force, the header is brought up to date, and a 2 is stored. -/
theorem restoreUndo_of_cons {config : Config} {p : Snapshot} {rest : List Snapshot}
    {s s₁ s₂ : Machine} (h : c.undo.entries = p :: rest) (happly : p.apply c.machine = .ok () s)
    (hsync : Machine.syncHeader config s = .ok () s₁)
    (hstore : Machine.store p.storer 2 s₁ = .ok () s₂) (storer : Option Variable) :
    restoreUndo config storer c =
      .ok () { c with machine := s₂, undo := { c.undo with entries := rest } } := by
  have hpop : c.undo.pop = some (p, { c.undo with entries := rest }) := by
    unfold Undo.pop
    rw [h]
  have happlied : onMachine p.apply { c with undo := { c.undo with entries := rest } } =
      .ok () { c with machine := s, undo := { c.undo with entries := rest } } := by
    rw [onMachine_run, happly]
  have hsynced : onMachine (Machine.syncHeader config)
      { c with machine := s, undo := { c.undo with entries := rest } } =
        .ok () { c with machine := s₁, undo := { c.undo with entries := rest } } := by
    rw [onMachine_run, hsync]
  unfold restoreUndo
  rw [get_bind, hpop]
  show (onMachine p.apply >>= fun _ => _) { c with undo := { c.undo with entries := rest } } = _
  rw [bind_ok happlied, bind_ok hsynced]
  unfold store
  rw [onMachine_run, hstore]

/-- Going back takes down the newest save that stands. -/
theorem restoreUndo_endsWith {v : Visit} (h : v.context.Tracks saves)
    (hperformed : v.performed = restoreUndo v.config v.instruction.store v.context) :
    v.GoesBack saves ∧ EndsWith saves.tail v.performed := by
  unfold GoesBack
  rw [hperformed]
  cases hentries : v.context.undo.entries with
  | nil =>
    have htail : v.context.Tracks saves.tail :=
      ⟨h.follows.tail hentries, h.running, fun w hw => h.stored w (List.mem_of_mem_tail hw)⟩
    rw [restoreUndo_of_nil v.config v.instruction.store hentries]
    refine ⟨rfl, htail.endsWith ?_ ?_⟩
    · exact (store_makes _ 0).keeps (fun _ _ h => h.identity_eq)
    · exact (store_makes _ 0).keeps (fun _ _ h => h.undo_eq)
  | cons p rest =>
    obtain ⟨save, older, rfl, rfl, hfollows⟩ := h.follows.uncons hentries
    have hsaved := h.follows.saved save List.mem_cons_self
    obtain ⟨s₁, s₂, happly, hsync, hstore, hidentity⟩ := hsaved.back
      (h.stored save List.mem_cons_self) h.running h.follows.large h.follows.fit v.config
    have hback := restoreUndo_of_cons hentries happly
      ((Machine.syncHeader_random v.config _ _).trans hsync) hstore v.instruction.store
    rw [hback]
    refine ⟨⟨save, older, s₂, rfl, rfl, hsaved.opcode, hsaved.pc, ?_, rfl⟩, ?_⟩
    · rw [bind_ok hsync, hstore]
    · refine ⟨hfollows.of_origin (Machine.origin_of_identity hidentity), ?_,
        fun w hw => h.stored w (List.mem_cons_of_mem _ hw)⟩
      rw [← h.running]
      exact congrArg (·.2.2.1) hidentity

end Context

open Context

namespace Instruction

/-- What an instruction does last leaves the history alone, unless it is a save or goes back. -/
theorem Ending.keeps_undo {config : Config} {i : Instruction} {y : Exec Unit}
    (h : Ending config i y) (hsave : i.opcode ≠ .saveUndo) (hback : i.opcode ≠ .restoreUndo) :
    Keeps Context.undo y := by
  cases h with
  | stay => exact keeps_pure ()
  | fault e => exact keeps_throw e
  | jump | request => exact fun _ => rfl
  | call packed arguments =>
    exact (call_withinMachine packed arguments i.store).keeps (fun _ _ => rfl)
  | ret value => exact (ret_withinMachine value).keeps (fun _ _ => rfl)
  | throwTo value cookie => exact (throwTo_withinMachine value cookie).keeps (fun _ _ => rfl)
  | saveUndo hop => exact absurd hop hsave
  | restoreUndo hop => exact absurd hop hback

theorem step_keeps_undo (config : Config) {i : Instruction} (hsave : i.opcode ≠ .saveUndo)
    (hback : i.opcode ≠ .restoreUndo) : Keeps Context.undo (i.step config) := by
  intro c
  obtain ⟨c', y, hchanges, hy, hend⟩ := i.step_ends config c
  have hundo : c'.undo = c.undo := by
    clear hend
    induction hchanges with
    | refl => rfl
    | tail _ hchange ih => exact hchange.undo_eq.trans ih
  rw [hend, hy.keeps_undo hsave hback, hundo]

theorem step_keeps_identity (config : Config) (i : Instruction) :
    Keeps Context.identity (i.step config) :=
  (i.step_makes config).keeps (fun _ _ h => h.identity_eq)

/-- An instruction tracks the saves, and if it goes back it ends in the newest of them. -/
theorem proceed_tracks (config : Config) (i : Instruction) {c : Context} {saves : List Visit}
    (h : c.Tracks saves) :
    AllGoBack saves (i.visits config c) ∧
      EndsWith (standing saves (i.visits config c)) (i.proceed config c) := by
  have hjumped : { c with machine.pc := i.next }.Tracks saves :=
    ⟨h.follows.of_origin rfl, h.running, h.stored⟩
  have hoperands := hjumped.endsWith
    ((operandValues_makes i.operands).keeps (fun _ _ h => h.identity_eq))
    ((operandValues_makes i.operands).keeps (fun _ _ h => h.undo_eq))
  rw [proceed_run]
  unfold visits
  cases hrun : operandValues i.operands { c with machine.pc := i.next } with
  | error e c' =>
    rw [hrun] at hoperands
    refine ⟨allGoBack_nil saves, ?_⟩
    unfold step
    rw [bind_error hrun]
    exact hoperands
  | ok ops c' =>
    rw [hrun] at hoperands
    have hpc : c'.machine.pc = i.next :=
      ((operandValues_makes i.operands).keeps (fun _ _ h => congrArg (·.1.2) h.course_eq)).of_ok hrun
    have hstep (hsomething : isAboutNothing i.opcode ops = false) :
        i.step config { c with machine.pc := i.next } = i.perform config ops c' :=
      step_eq_perform hrun hsomething
    -- only a save and going back touch the history, and the operands have not
    by_cases hsave : i.opcode = .saveUndo
    · have hperform : i.perform config ops c' = saveUndo i.store c' := by
        unfold perform
        rw [hsave]
      refine ⟨allGoBack_singleton (fun hback => ?_), ?_⟩
      · cases hsave.symm.trans hback
      · rw [hstep (by rw [hsave]; rfl), hperform, standing_save hsave]
        exact saveUndo_endsWith (v := ⟨config, i, ops, c'⟩) hoperands hsave hpc
    by_cases hback : i.opcode = .restoreUndo
    · have hperform : i.perform config ops c' = restoreUndo config i.store c' := by
        unfold perform
        rw [hback]
      obtain ⟨hgoes, hends⟩ := restoreUndo_endsWith (v := ⟨config, i, ops, c'⟩) hoperands hperform
      refine ⟨allGoBack_singleton (fun _ => hgoes), ?_⟩
      rw [hstep (by rw [hback]; rfl), standing_back hback]
      exact hends
    · refine ⟨allGoBack_singleton (fun h => absurd h hback), ?_⟩
      rw [standing_other hsave hback]
      exact hjumped.endsWith (i.step_keeps_identity config) (i.step_keeps_undo config hsave hback)

end Instruction

/-- So do instructions that are executed in turn. -/
theorem Block.executeAll_tracks (config : Config) (instructions : List Instruction) :
    ∀ {c : Context} {saves : List Visit}, c.Tracks saves →
      AllGoBack saves (visits config instructions c) ∧
        EndsWith (standing saves (visits config instructions c))
          (executeAll config instructions c) := by
  induction instructions with
  | nil => exact fun {c saves} h => ⟨allGoBack_nil saves, h⟩
  | cons i rest ih =>
    intro c saves h
    obtain ⟨hback, hends⟩ := i.proceed_tracks config h
    unfold visits
    rw [executeAll_cons]
    cases hproceed : i.proceed config c with
    | error e c' =>
      rw [hproceed] at hends
      rw [List.append_nil, bind_error hproceed]
      exact ⟨hback, hends⟩
    | ok u c' =>
      rw [hproceed] at hends
      obtain ⟨hrest, hlast⟩ := ih hends
      rw [standing_append, bind_ok hproceed]
      exact ⟨hback.append hrest, hlast⟩

end ZMachine
