import ZMachine.Block.Basic
import ZMachine.Proofs.Execution.Setting

/-!
# The course of execution

An operation that does not end a unit leaves the pc where it is and asks the host for nothing; so
the instruction goes on at the next one, whether it completes or fails:

    endsUnit = false  →  step keeps the course (identity, pc and control order)

Any instruction makes such changes and then does one last thing:

    step config i c = y c'       c' after the changes, y one of `Ending`

It stays on the line, sets the pc, asks the host for something, calls, returns or throws, keeps a
checkpoint or goes back to one.  Each of these is a chain of a few transfers, and what every transfer
keeps or preserves is kept or preserved by executing any instructions.  None changes the identity of
the machine: its header, its story, whether it is halted, and the size of its memory.
-/

namespace ZMachine

namespace Snapshot

/-- A machine put back to a point, as `apply` does it. -/
def onto (p : Snapshot) (s : Machine) : Machine :=
  { s with memory := p.memory, pc := p.pc, stack := p.stack, streams := p.streams }

/-- A snapshot of the same story and size is put in force as a whole; any other one is refused. -/
theorem apply_cases (p : Snapshot) (s : Machine) :
    (∃ fault, ¬ (p.belongsTo s.header = true ∧ p.memory.size = s.memory.size) ∧
        p.apply s = .error fault s) ∨
      ((p.belongsTo s.header = true ∧ p.memory.size = s.memory.size) ∧
        p.apply s = .ok () (p.onto s)) := by
  unfold apply
  by_cases hbelongs : p.belongsTo s.header = true
  · rw [hbelongs, if_neg (by decide)]
    by_cases hsize : p.memory.size = s.memory.size
    · rw [if_neg (fun h => h hsize)]
      exact .inr ⟨⟨rfl, hsize⟩, rfl⟩
    · rw [if_pos hsize]
      exact .inl ⟨_, fun h => hsize h.2, rfl⟩
  · rw [Bool.not_eq_true] at hbelongs
    rw [hbelongs, if_pos (by decide)]
    exact .inl ⟨_, by simp, rfl⟩

/-- A snapshot put in force has the size of the memory it replaces. -/
theorem identity_onto {p : Snapshot} {s : Machine} (hsize : p.memory.size = s.memory.size) :
    (p.onto s).identity = s.identity :=
  congrArg (fun size => (s.header, s.story, s.halted, size)) hsize

end Snapshot

/-- Whether a story asks for this: the host has to do something before it goes on. -/
def Order.isRequest : Order → Bool
  | .read .. | .char .. | .save .. | .restore .. | .restart | .quit => true
  | _ => false

open Context

namespace Instruction

/-! ## Operations on the straight line -/

theorem operandValues_makes (operands : List Operand) : Makes Change (operandValues operands) := by
  induction operands with
  | nil => exact leads_pure []
  | cons operand rest ih =>
    cases operand with
    | const v => exact leads_bind ih (fun _ => leads_pure _)
    | var source =>
      refine leads_bind (onMachine_makes (Machine.readVar_makes source)) (fun v => ?_)
      exact leads_bind ih (fun _ => leads_pure _)

theorem need_makes (i : Instruction) (ops : List UInt16) (n : Nat) : Makes Change (i.need ops n) :=
  leads_ite (fun _ => leads_throw _) (fun _ => leads_pure ())

theorem stepVariable_makes (number delta : UInt16) : Makes Change (stepVariable number delta) := by
  unfold stepVariable
  refine leads_bind (onMachine_makes (Machine.readIndirect_makes _)) (fun value => ?_)
  refine leads_bind (onMachine_makes (Machine.writeIndirect_makes _ _)) (fun _ => ?_)
  exact leads_pure _

/-- A result that is computed first and then stored. -/
theorem result_makes {α : Type} {x : Exec α} (hx : Makes Change x) (storer : Option Variable)
    (value : α → UInt16) : Makes Change (do Context.store storer (value (← x))) :=
  leads_bind hx (fun _ => Context.store_makes storer _)

theorem askObjects_makes {α : Type} (question : ObjectTable → Memory → Except Fault α) :
    Makes Change (onMachine (Machine.askObjects question)) :=
  onMachine_makes (Machine.askObjects_makes question)

theorem onObjects_makes {α : Type} {action : ObjectTable → MemoryM α}
    (h : ∀ t, Keeps Memory.size (action t)) :
    Makes Change (onMachine (Machine.onObjects action)) :=
  onMachine_makes (Machine.onObjects_makes h)

theorem onStack_makes {α : Type} {action : StackM α} (h : Makes Stack.Change action) :
    Makes Change (onMachine (Machine.onStack action)) :=
  onMachine_makes (Machine.onStack_makes h)

/-- An operation that does not end a unit makes such changes only. -/
theorem perform_makes_change (config : Config) (i : Instruction) (ops : List UInt16)
    (h : i.opcode.endsUnit = false) : Makes Change (i.perform config ops) := by
  unfold perform
  dsimp only
  cases hop : i.opcode with
  | add | sub | mul | or | and | not | logShift | artShift | checkUnicode | setFont =>
    exact Context.store_makes i.store _
  | div | mod =>
    refine leads_bind (need_makes i ops 2) (fun _ => ?_)
    exact leads_ite (fun _ => leads_bind (leads_throw _) (fun _ => Context.store_makes _ _))
      (fun _ => Context.store_makes i.store _)
  | store => exact onMachine_makes (Machine.writeIndirect_makes _ _)
  | load => exact result_makes (onMachine_makes (Machine.readIndirect_makes _)) i.store id
  | inc | dec => exact leads_bind (stepVariable_makes _ _) (fun _ => leads_pure ())
  | push => exact onStack_makes (Stack.push_makes _)
  | pull =>
    exact leads_bind (onStack_makes Stack.pop_makes)
      (fun _ => onMachine_makes (Machine.writeIndirect_makes _ _))
  | loadw | getPropLen => exact result_makes (Context.ask_makes _) i.store id
  | loadb => exact result_makes (Context.ask_makes _) i.store UInt8.toUInt16
  | storew =>
    exact leads_bind (need_makes i ops 3)
      (fun _ => Context.onMemory_makes (Memory.write16_keeps_size _ _))
  | storeb =>
    exact leads_bind (need_makes i ops 3)
      (fun _ => Context.onMemory_makes (Memory.write8_keeps_size _ _))
  | catchFrame => exact result_makes catchCookie_makes i.store id
  | setAttr => exact onObjects_makes (fun t => t.setAttribute_keeps_size _ _ true)
  | clearAttr => exact onObjects_makes (fun t => t.setAttribute_keeps_size _ _ false)
  | insertObj => exact onObjects_makes (fun t => t.insert_keeps_size _ _)
  | removeObj => exact onObjects_makes (fun t => t.remove_keeps_size _)
  | getParent | getProp | getPropAddr | getNextProp =>
    exact result_makes (askObjects_makes _) i.store id
  | putProp =>
    exact leads_bind (need_makes i ops 3)
      (fun _ => onObjects_makes (fun t => t.putProperty_keeps_size _ _ _))
  | print =>
    have hend : Makes Change (if Opcode.print = Opcode.printRet then do
        Context.print "\n"
        ret 1
      else pure () : Exec Unit) :=
      leads_ite (fun hne => by cases hne) (fun _ => leads_pure ())
    cases i.text with
    | none => exact hend
    | some address => exact leads_bind (printZString_makes address.toNat) (fun _ => hend)
  | printAddr => exact leads_bind (printZString_makes _) (fun _ => leads_pure ())
  | printPaddr =>
    exact leads_bind leads_get
      (fun _ => leads_bind (printZString_makes _) (fun _ => leads_pure ()))
  | printObj =>
    refine leads_bind (askObjects_makes _) (fun found => ?_)
    cases found with
    | none => exact leads_pure ()
    | some address => exact leads_bind (printZString_makes address) (fun _ => leads_pure ())
  | printChar => exact printZscii_makes _
  | printNum | printUnicode | newLine => exact print_makes _
  | printTable => exact leads_bind (need_makes i ops 2) (fun _ => Table.print_makes _ _ _ _ _)
  | splitWindow | setWindow | eraseWindow | setTextStyle | setColour => exact onWindow_makes _
  | eraseLine | setCursor => exact leads_ite (fun _ => onWindow_makes _) (fun _ => leads_pure ())
  | getCursor =>
    refine leads_bind leads_get (fun c => ?_)
    exact leads_bind (Context.onMemory_makes (Memory.write16_keeps_size _ _))
      (fun _ => Context.onMemory_makes (Memory.write16_keeps_size _ _))
  | outputStream =>
    refine leads_bind (onMachine_makes (Machine.selectStream_makes _ _)) (fun _ => ?_)
    exact leads_ite (fun _ => note_makes _) (fun _ => leads_pure ())
  | bufferMode | inputStream | soundEffect | nop => exact leads_pure ()
  | copyTable =>
    exact leads_bind (need_makes i ops 3)
      (fun _ => Context.onMemory_makes (Table.copy_keeps_size _ _ _))
  | random =>
    refine leads_ite (fun _ => result_makes (draw_makes _) i.store id) (fun _ => ?_)
    exact leads_bind (onMachine_makes (makes_modify (fun _ => .random _)))
      (fun _ => Context.store_makes i.store 0)
  | tokenise =>
    refine leads_bind (need_makes i ops 2) (fun _ => leads_bind leads_get (fun c => ?_))
    exact leads_bind (Context.onMemory_makes (tokenise_keeps_size _ _ _ _ _))
      (fun _ => note_makes _)
  | encodeText =>
    refine leads_bind (need_makes i ops 4) (fun _ => ?_)
    refine leads_bind (Context.ask_makes _) (fun source => ?_)
    refine leads_bind (Context.ask_makes _) (fun alphabet => ?_)
    exact Context.onMemory_makes (Memory.writeBytes_keeps_size _ _)
  -- the operations that end a unit
  | _ =>
    rw [hop] at h
    cases h

/-- An instruction that does not end a unit makes such changes only. -/
theorem step_makes_change (config : Config) (i : Instruction) (h : i.opcode.endsUnit = false) :
    Makes Change (i.step config) := by
  unfold step
  refine leads_bind (operandValues_makes i.operands) (fun ops => ?_)
  have hperform := perform_makes_change config i ops h
  exact leads_ite (fun _ => leads_bind (note_makes _) (fun _ => hperform)) (fun _ => hperform)

/-- An instruction that does not end a unit leaves the course as it is. -/
theorem step_keeps_course (config : Config) (i : Instruction) (h : i.opcode.endsUnit = false) :
    Keeps course (i.step config) :=
  (i.step_makes_change config h).keeps (fun _ _ hc => hc.course_eq)

end Instruction

/-! ## Operations that end a unit -/

namespace Context

/-- What the run of a story never changes. -/
def identity (c : Context) : Header × Memory × Bool × Nat :=
  c.machine.identity

/-- How an instruction changes a context. -/
inductive Transfer : Context → Context → Prop
  | change {c c' : Context} (h : Change c c') : Transfer c c'
  | jump {c : Context} (address : UInt32) : Transfer c { c with machine.pc := address }
  | request {c : Context} {order : Order} (h : order.isRequest = true) :
      Transfer c { c with control := some order }
  | enter {c : Context} {f : Frame} (hroom : c.machine.stack.frames.length < Stack.maxFrames)
      (hlocals : f.locals.length ≤ Stack.maxLocals)
      (hbase : f.stackBase = c.machine.stack.values.size) :
      Transfer c { c with machine.stack.frames := f :: c.machine.stack.frames }
  | leave {c : Context} {t : Stack} (h : c.machine.stack.Leave t) :
      Transfer c { c with machine.stack := t }
  | keep {c : Context} (storer : Option Variable) :
      Transfer c { c with undo := c.undo.push (.capture c.machine storer) }
  | drop {c : Context} {p : Snapshot} {u : Undo} (h : c.undo.pop = some (p, u)) :
      Transfer c { c with undo := u }
  | back {c : Context} {p : Snapshot} {u : Undo} (h : c.undo.pop = some (p, u))
      (hsize : p.memory.size = c.machine.memory.size) :
      Transfer c { c with undo := u, machine := p.onto c.machine }

theorem Change.identity_eq {c c' : Context} (h : Change c c') : c'.identity = c.identity :=
  congrArg (·.1.1) h.course_eq

theorem Transfer.identity_eq {c c' : Context} (h : Transfer c c') : c'.identity = c.identity := by
  cases h with
  | change hc => exact hc.identity_eq
  | back hpop hsize => exact Snapshot.identity_onto hsize
  | jump | request | enter | leave | keep | drop => rfl

theorem transfers {α : Type} {x : Exec α} (h : Makes Change x) : Makes Transfer x :=
  h.mono (fun _ _ => .change)

theorem jump_makes (address : UInt32) : Makes Transfer (jump address) :=
  fun _ => .single (.jump address)

theorem request_makes {order : Order} (h : order.isRequest = true) :
    Makes Transfer (request order) :=
  fun _ => .tail (.single (.request h)) (.change (.journal _))

/-- A frame that is based on the values that are there. -/
theorem enter_makes {c : Context} {f : Frame} (hlocals : f.locals.length ≤ Stack.maxLocals)
    (hbase : f.stackBase = c.machine.stack.values.size) :
    Relation.ReflTransGen Transfer c
      (endState (onMachine (Machine.onStack (Stack.pushFrame f)) c)) := by
  rw [endState_onMachine, Machine.endState_onStack]
  unfold Stack.pushFrame
  split
  · next hroom => exact .single (.enter hroom hlocals hbase)
  · exact .refl

theorem leave_makes {α : Type} {action : StackM α} (h : Makes Stack.Leave action) :
    Makes Transfer (onMachine (Machine.onStack action)) := by
  intro c
  rw [endState_onMachine, Machine.endState_onStack]
  have hstep (t t' : Stack) (ht : t.Leave t') :
      Transfer { c with machine.stack := t } { c with machine.stack := t' } :=
    .leave ht
  exact h.lift _ hstep c.machine.stack

theorem ret_makes (value : UInt16) : Makes Transfer (ret value) := by
  unfold ret
  refine leads_bind (leave_makes Stack.popFrame_makes) (fun frame => ?_)
  exact leads_bind (jump_makes _) (fun _ => transfers (store_makes _ value))

theorem length_initialLocals (count : Nat) (arguments : List UInt16) :
    (initialLocals count arguments).length = count := by
  unfold initialLocals
  rw [List.length_take, List.length_append, List.length_replicate]
  omega

theorem call_makes (packed : UInt16) (arguments : List UInt16) (storer : Option Variable) :
    Makes Transfer (call packed arguments storer) := by
  unfold call
  refine leads_ite (fun _ => transfers (store_makes storer 0)) (fun _ => ?_)
  refine leads_get_bind (fun c => ?_)
  dsimp only
  cases hcount : c.machine.memory.read8 (c.machine.header.unpack packed) with
  | error e => exact .refl
  | ok count =>
    show Relation.ReflTransGen Transfer c (endState ((if Stack.maxLocals < count.toNat then _ else _ :
      Exec Unit) c))
    by_cases hmany : Stack.maxLocals < count.toNat
    · rw [if_pos hmany]
      exact .refl
    · rw [if_neg hmany]
      refine leads_bind_at (enter_makes ?_ rfl) (fun _ => jump_makes _)
      rw [length_initialLocals]
      omega

theorem throwTo_makes (value cookie : UInt16) : Makes Transfer (throwTo value cookie) := by
  unfold throwTo
  refine leads_bind leads_get (fun c => ?_)
  have hleave : Makes Transfer (do
      onMachine (Machine.onStack (Stack.popFrames (c.machine.stack.depth - cookie.toNat)))
      ret value) :=
    leads_bind (leave_makes (Stack.popFrames_makes _)) (fun _ => ret_makes value)
  exact leads_ite (fun _ => leads_bind (leads_throw _) (fun _ => hleave)) (fun _ => hleave)

theorem saveUndo_makes (storer : Option Variable) : Makes Transfer (saveUndo storer) :=
  leads_bind (makes_modify (fun _ => .keep storer)) (fun _ => transfers (store_makes storer 1))

theorem restoreUndo_makes (config : Config) (storer : Option Variable) :
    Makes Transfer (restoreUndo config storer) := by
  unfold restoreUndo
  refine leads_get_bind (fun c => ?_)
  cases hpop : c.undo.pop with
  | none => exact transfers (store_makes storer 0) c
  | some r =>
    obtain ⟨p, u⟩ := r
    have hrest : ∀ _ : Unit, Makes Transfer (do
        onMachine (Machine.syncHeader config)
        Context.store p.storer 2) :=
      fun _ => leads_bind (transfers (onMachine_makes (Machine.syncHeader_makes config)))
        (fun _ => transfers (store_makes p.storer 2))
    have happly : Relation.ReflTransGen Transfer c
        (endState (onMachine p.apply { c with undo := u })) := by
      rw [endState_onMachine]
      rcases p.apply_cases c.machine with ⟨fault, -, hrefused⟩ | ⟨⟨-, hsize⟩, happlied⟩
      · rw [hrefused]
        exact .single (.drop hpop)
      · rw [happlied]
        exact .single (.back hpop hsize)
    show Relation.ReflTransGen Transfer c
      (endState ((onMachine p.apply >>= fun _ => _) { c with undo := u }))
    exact leads_bind_at happly hrest

end Context

namespace Instruction

/-! ## How an instruction ends -/

/-- What an instruction does last, when its changes on the straight line are made. -/
inductive Ending (config : Config) (i : Instruction) : Exec Unit → Prop
  | stay : Ending config i (pure ())
  | fault (e : Fault) : Ending config i (throw e)
  | jump (address : UInt32) : Ending config i (Context.jump address)
  | request {order : Order} (h : order.isRequest = true) : Ending config i (Context.request order)
  | call (packed : UInt16) (arguments : List UInt16) :
      Ending config i (Context.call packed arguments i.store)
  | ret (value : UInt16) : Ending config i (Context.ret value)
  | throwTo (value cookie : UInt16) : Ending config i (Context.throwTo value cookie)
  | saveUndo (h : i.opcode = .saveUndo) : Ending config i (Context.saveUndo i.store)
  | restoreUndo (h : i.opcode = .restoreUndo) :
      Ending config i (Context.restoreUndo config i.store)

/-- An action makes changes on the straight line and then does one last thing. -/
def Ends (config : Config) (i : Instruction) (x : Exec Unit) : Prop :=
  ∀ c, ∃ c' y, Relation.ReflTransGen Change c c' ∧ Ending config i y ∧ x c = y c'

section
variable {config : Config} {i : Instruction}

theorem Ending.ends {y : Exec Unit} (h : Ending config i y) : Ends config i y :=
  fun c => ⟨c, y, .refl, h, rfl⟩

/-- Changes only. -/
theorem ends_of_makes {x : Exec Unit} (hx : Makes Change x) : Ends config i x := by
  intro c
  have hc := hx c
  cases h : x c with
  | ok u c' =>
    rw [h] at hc
    exact ⟨c', pure (), hc, .stay, rfl⟩
  | error e c' =>
    rw [h] at hc
    exact ⟨c', throw e, hc, .fault e, rfl⟩

theorem ends_bind {α : Type} {x : Exec α} {g : α → Exec Unit} (hx : Makes Change x)
    (hg : ∀ a, Ends config i (g a)) : Ends config i (x >>= g) := by
  intro c
  have hc := hx c
  cases h : x c with
  | ok a c' =>
    rw [h] at hc
    obtain ⟨c'', y, hchange, hy, hend⟩ := hg a c'
    exact ⟨c'', y, hc.trans hchange, hy, (bind_ok h).trans hend⟩
  | error e c' =>
    rw [h] at hc
    exact ⟨c', throw e, hc, .fault e, bind_error h⟩

theorem ends_ite {p : Prop} [Decidable p] {x y : Exec Unit} (hx : p → Ends config i x)
    (hy : ¬ p → Ends config i y) : Ends config i (if p then x else y) := by
  split
  · next h => exact hx h
  · next h => exact hy h

theorem branchIf_ends (condition : Bool) : Ends config i (i.branchIf condition) := by
  unfold branchIf
  cases i.branch with
  | none => exact Ending.stay.ends
  | some b =>
    refine ends_ite (fun _ => ?_) (fun _ => Ending.stay.ends)
    cases b.target with
    | returnFalse => exact (Ending.ret 0).ends
    | returnTrue => exact (Ending.ret 1).ends
    | address target => exact (Ending.jump target).ends

/-- A condition that is computed first and then decides a branch. -/
theorem condition_ends {α : Type} {x : Exec α} (hx : Makes Change x) (condition : α → Bool) :
    Ends config i (do i.branchIf (condition (← x))) :=
  ends_bind hx (fun _ => branchIf_ends _)

/-- A result that is stored and, unless it is 0, decides a branch. -/
theorem found_ends (value : UInt16) :
    Ends config i (do
      Context.store i.store value
      i.branchIf (value != 0)) :=
  ends_bind (Context.store_makes i.store value) (fun _ => branchIf_ends _)

end

/-- What any operation does. -/
theorem perform_ends (config : Config) (i : Instruction) (ops : List UInt16) :
    Ends config i (i.perform config ops) := by
  cases hends : i.opcode.endsUnit with
  | false => exact ends_of_makes (perform_makes_change config i ops hends)
  | true =>
    unfold perform
    dsimp only
    cases hop : i.opcode with
    | je => exact ends_bind (need_makes i ops 1) (fun _ => branchIf_ends _)
    | jl | jg | jz | test | piracy => exact branchIf_ends _
    | decChk => exact condition_ends (stepVariable_makes _ _) _
    | incChk => exact condition_ends (stepVariable_makes _ _) _
    | jump => exact (Ending.jump _).ends
    | call1s | call2s | callVs | callVs2 | call1n | call2n | callVn | callVn2 =>
      exact ends_bind (need_makes i ops 1) (fun _ => (Ending.call _ _).ends)
    | ret | rtrue | rfalse => exact (Ending.ret _).ends
    | retPopped => exact ends_bind (onStack_makes Stack.pop_makes) (fun v => (Ending.ret v).ends)
    | throwFrame => exact (Ending.throwTo _ _).ends
    | checkArgCount => exact condition_ends argCount_makes _
    | jin | testAttr => exact condition_ends (askObjects_makes _) _
    | getSibling | getChild => exact ends_bind (askObjects_makes _) (fun o => found_ends o)
    | printRet =>
      have hend : Ends config i (if Opcode.printRet = Opcode.printRet then do
          Context.print "\n"
          ret 1
        else pure () : Exec Unit) :=
        ends_ite (fun _ => ends_bind (print_makes _) (fun _ => (Ending.ret 1).ends))
          (fun _ => Ending.stay.ends)
      cases i.text with
      | none => exact hend
      | some address => exact ends_bind (printZString_makes address.toNat) (fun _ => hend)
    | scanTable =>
      refine ends_bind (need_makes i ops 3) (fun _ => ?_)
      exact ends_bind (Context.ask_makes _) (fun found => found_ends _)
    | verify => exact ends_bind leads_get (fun _ => branchIf_ends _)
    | aread =>
      refine ends_bind (need_makes i ops 1) (fun _ => ?_)
      exact ends_bind (Context.ask_makes _) (fun _ => (Ending.request rfl).ends)
    | readChar | restart | quit => exact (Ending.request rfl).ends
    | save =>
      refine ends_ite (fun _ => ends_of_makes (Context.store_makes _ _)) (fun _ => ?_)
      refine ends_bind leads_get (fun c => ?_)
      cases (Snapshot.capture c.machine i.store).encode c.machine.story with
      | ok data => exact (Ending.request rfl).ends
      | error e => exact (Ending.fault _).ends
    | restore =>
      exact ends_ite (fun _ => ends_of_makes (Context.store_makes _ _))
        (fun _ => (Ending.request rfl).ends)
    | saveUndo => exact (Ending.saveUndo hop).ends
    | restoreUndo => exact (Ending.restoreUndo hop).ends
    -- the operations that do not end a unit
    | _ =>
      rw [hop] at hends
      cases hends

theorem step_ends (config : Config) (i : Instruction) : Ends config i (i.step config) := by
  unfold step
  refine ends_bind (operandValues_makes i.operands) (fun ops => ?_)
  have hperform := perform_ends config i ops
  exact ends_ite (fun _ => ends_bind (note_makes _) (fun _ => hperform)) (fun _ => hperform)

theorem Ending.makes {config : Config} {i : Instruction} {y : Exec Unit}
    (h : Ending config i y) : Makes Transfer y := by
  cases h with
  | stay => exact leads_pure ()
  | fault e => exact leads_throw e
  | jump address => exact jump_makes address
  | request hrequest => exact request_makes hrequest
  | call packed arguments => exact call_makes packed arguments i.store
  | ret value => exact ret_makes value
  | throwTo value cookie => exact throwTo_makes value cookie
  | saveUndo => exact saveUndo_makes i.store
  | restoreUndo => exact restoreUndo_makes config i.store

theorem step_makes (config : Config) (i : Instruction) : Makes Transfer (i.step config) := by
  intro c
  obtain ⟨c', y, hchanges, hy, hend⟩ := i.step_ends config c
  rw [hend]
  exact (Relation.ReflTransGen.mono (fun _ _ => .change) _ _ hchanges).trans (hy.makes c')

end Instruction

/-- What executing instructions one after another does. -/
theorem Block.executeAll_makes (config : Config) (instructions : List Instruction) :
    Makes Transfer (Block.executeAll config instructions) := by
  induction instructions with
  | nil => exact leads_pure ()
  | cons i rest ih =>
    exact leads_bind (jump_makes i.next) (fun _ => leads_bind (i.step_makes config) (fun _ => ih))

end ZMachine
