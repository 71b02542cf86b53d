import ZMachine.Execution.Step
import ZMachine.Proofs.Stack

/-!
# What the operations change

No write changes the size of the memory.  So an operation on the machine changes the bytes of the
memory, the values and the locals of the running routine, the random numbers and the output streams,
one after another, and leaves the rest alone:

    Machine.setting s = (header, story, halted, memory size), pc

An operation on the context that is not a transfer of control and asks the host for nothing changes
the machine in this way, the screen, the journal and the supply of seeds.  So it leaves the setting
of its machine, the undo history and the control order as they are.

A call, a return and a throw work within the machine: the rest of a context is nothing to them.
-/

namespace ZMachine

/-! ## The size of the memory -/

namespace Memory

theorem write8_keeps_size (address : Nat) (value : UInt8) : Keeps size (write8 address value) := by
  intro m
  unfold write8
  split
  · exact size_set8 m address value
  · rfl

theorem write16_keeps_size (address : Nat) (value : UInt16) :
    Keeps size (write16 address value) := by
  intro m
  unfold write16
  split
  · exact size_setBytes m address (wordBytes value)
  · rfl

theorem writeBytes_keeps_size (address : Nat) (data : List UInt8) :
    Keeps size (writeBytes address data) := by
  intro m
  unfold writeBytes
  split
  · exact size_setBytes m address data
  · rfl

theorem copyForward_keeps_size (source target count : Nat) :
    Keeps size (copyForward source target count) := by
  induction count generalizing source target with
  | zero => exact keeps_pure ()
  | succ count ih =>
    unfold copyForward
    refine keeps_bind keeps_get (fun m => keeps_bind (keeps_liftOutOfRange _) (fun b => ?_))
    exact keeps_bind (write8_keeps_size target b) (fun _ => ih _ _)

end Memory

theorem Table.copy_keeps_size (source target count : UInt16) :
    Keeps Memory.size (Table.copy source target count) := by
  unfold Table.copy
  refine keeps_ite (fun _ => Memory.writeBytes_keeps_size _ _) (fun _ => ?_)
  refine keeps_ite (fun _ => Memory.copyForward_keeps_size _ _ _) (fun _ => ?_)
  refine keeps_bind keeps_get (fun m => keeps_bind (keeps_liftOutOfRange _) (fun data => ?_))
  exact Memory.writeBytes_keeps_size _ data

namespace Header

theorem setExtensionWord_keeps_size (h : Header) (index : Nat) (value : UInt16) :
    Keeps Memory.size (h.setExtensionWord index value) := by
  unfold setExtensionWord
  refine keeps_ite (fun _ => ?_) (fun _ => keeps_pure false)
  exact keeps_bind (Memory.write16_keeps_size _ value) (fun _ => keeps_pure true)

theorem writeCapabilities_keeps_size (h : Header) (c : Config) :
    Keeps Memory.size (h.writeCapabilities c) := by
  unfold writeCapabilities
  refine keeps_bind (Memory.write8_keeps_size _ _) (fun _ => keeps_bind keeps_get (fun m => ?_))
  refine keeps_bind (keeps_liftOutOfRange _) (fun flags => ?_)
  refine keeps_bind (Memory.write8_keeps_size _ _) (fun _ => ?_)
  refine keeps_bind (Memory.write8_keeps_size _ _) (fun _ => ?_)
  refine keeps_bind (Memory.write8_keeps_size _ _) (fun _ => ?_)
  refine keeps_bind (Memory.write16_keeps_size _ _) (fun _ => ?_)
  refine keeps_bind (Memory.write16_keeps_size _ _) (fun _ => ?_)
  refine keeps_bind (Memory.write16_keeps_size _ _) (fun _ => ?_)
  refine keeps_bind (Memory.write8_keeps_size _ _) (fun _ => ?_)
  refine keeps_bind (Memory.write8_keeps_size _ _) (fun _ => ?_)
  exact keeps_bind (setExtensionWord_keeps_size h _ _) (fun _ => keeps_pure ())

end Header

namespace ObjectTable

theorem setAttribute_keeps_size (t : ObjectTable) (o attr : UInt16) (on : Bool) :
    Keeps Memory.size (t.setAttribute o attr on) := by
  unfold setAttribute
  refine keeps_ite (fun _ => keeps_pure ()) (fun _ => keeps_bind keeps_get (fun m => ?_))
  exact keeps_bind (keeps_liftOutOfRange _) (fun b => Memory.write8_keeps_size _ _)

theorem setLink_keeps_size (t : ObjectTable) (l : Link) (o target : UInt16) :
    Keeps Memory.size (t.setLink l o target) :=
  Memory.write16_keeps_size _ target

theorem remove_keeps_size (t : ObjectTable) (o : UInt16) : Keeps Memory.size (t.remove o) := by
  unfold remove
  refine keeps_ite (fun _ => keeps_pure ()) (fun _ => keeps_bind keeps_get (fun m => ?_))
  refine keeps_bind (keeps_liftExcept _) (fun parent => ?_)
  refine keeps_ite (fun _ => keeps_pure ()) (fun _ => ?_)
  refine keeps_bind (keeps_liftExcept _) (fun next => ?_)
  refine keeps_bind (keeps_liftExcept _) (fun first => ?_)
  have hend : Keeps Memory.size (do
      t.setLink .parent o 0
      t.setLink .sibling o 0) :=
    keeps_bind (setLink_keeps_size t _ o 0) (fun _ => setLink_keeps_size t _ o 0)
  refine keeps_ite (fun _ => ?_) (fun _ => keeps_bind (keeps_liftExcept _) (fun found => ?_))
  · exact keeps_bind (setLink_keeps_size t _ parent next) (fun _ => hend)
  · cases found with
    | none => exact hend
    | some current => exact keeps_bind (setLink_keeps_size t _ current next) (fun _ => hend)

theorem insert_keeps_size (t : ObjectTable) (o target : UInt16) :
    Keeps Memory.size (t.insert o target) := by
  unfold insert
  refine keeps_ite (fun _ => keeps_pure ()) (fun _ => ?_)
  refine keeps_bind (remove_keeps_size t o) (fun _ => keeps_bind keeps_get (fun m => ?_))
  refine keeps_bind (keeps_liftExcept _) (fun first => ?_)
  refine keeps_bind (setLink_keeps_size t _ o first) (fun _ => ?_)
  refine keeps_bind (setLink_keeps_size t _ o target) (fun _ => ?_)
  exact setLink_keeps_size t _ target o

theorem putProperty_keeps_size (t : ObjectTable) (o number value : UInt16) :
    Keeps Memory.size (t.putProperty o number value) := by
  unfold putProperty
  refine keeps_ite (fun _ => keeps_pure ()) (fun _ => keeps_bind keeps_get (fun m => ?_))
  refine keeps_bind (keeps_liftExcept _) (fun found => ?_)
  cases found with
  | none => exact keeps_throw _
  | some p =>
    exact keeps_ite (fun _ => Memory.write8_keeps_size _ _) (fun _ => Memory.write16_keeps_size _ _)

end ObjectTable

theorem writeSlot_keeps_size (slot entry : Nat) (t : Token) :
    Keeps Memory.size (writeSlot slot entry t) := by
  unfold writeSlot
  refine keeps_bind (Memory.write16_keeps_size _ _) (fun _ => ?_)
  exact keeps_bind (Memory.write8_keeps_size _ _) (fun _ => Memory.write8_keeps_size _ _)

theorem writeSlots_keeps_size (d : Dictionary) (a : Alphabet) (text : List UInt8)
    (skipUnknown : Bool) (slot : Nat) (words : List Token) :
    Keeps Memory.size (writeSlots d a text skipUnknown slot words) := by
  induction words generalizing slot with
  | nil => exact keeps_pure ()
  | cons t rest ih =>
    unfold writeSlots
    refine keeps_bind keeps_get (fun m => keeps_bind (keeps_liftOutOfRange _) (fun entry => ?_))
    refine keeps_ite (fun _ => ?_) (fun _ => ih _)
    exact keeps_bind (writeSlot_keeps_size slot entry t) (fun _ => ih _)

theorem tokenise_keeps_size (h : Header) (buffer parse dictionary : Nat) (skipUnknown : Bool) :
    Keeps Memory.size (tokenise h buffer parse dictionary skipUnknown) := by
  unfold tokenise
  refine keeps_bind keeps_get (fun m => keeps_bind (keeps_liftOutOfRange _) (fun d => ?_))
  refine keeps_bind (keeps_liftExcept _) (fun a => ?_)
  refine keeps_bind (keeps_liftOutOfRange _) (fun length => ?_)
  refine keeps_bind (keeps_liftOutOfRange _) (fun text => ?_)
  refine keeps_bind (keeps_liftOutOfRange _) (fun room => ?_)
  exact keeps_bind (writeSlots_keeps_size d a text _ _ _) (fun _ => Memory.write8_keeps_size _ _)

/-! ## Changes of a machine -/

namespace Machine

/-- What the run of a story never changes. -/
def identity (s : Machine) : Header × Memory × Bool × Nat :=
  (s.header, s.story, s.halted, s.memory.size)

/-- What only a transfer of control changes. -/
def setting (s : Machine) : (Header × Memory × Bool × Nat) × UInt32 :=
  (s.identity, s.pc)

/-- How an operation changes a machine. -/
inductive Change : Machine → Machine → Prop
  | memory {s : Machine} (m : Memory) (h : m.size = s.memory.size) : Change s { s with memory := m }
  | stack {s : Machine} {t : Stack} (h : s.stack.Change t) : Change s { s with stack := t }
  | random {s : Machine} (r : Random) : Change s { s with random := r }
  | streams {s : Machine} (o : OutputStreams) : Change s { s with streams := o }

theorem Change.setting_eq {s s' : Machine} (h : Change s s') : s'.setting = s.setting := by
  cases h with
  | memory m hsize =>
    exact congrArg (fun size => ((s.header, s.story, s.halted, size), s.pc)) hsize
  | stack | random | streams => rfl

variable {α : Type}

theorem onMemory_run (action : MemoryM α) (s : Machine) :
    onMemory action s = match action s.memory with
      | .ok a memory => .ok a { s with memory }
      | .error e memory => .error e { s with memory } :=
  rfl

theorem onStack_run (action : StackM α) (s : Machine) :
    onStack action s = match action s.stack with
      | .ok a stack => .ok a { s with stack }
      | .error e stack => .error e { s with stack } :=
  rfl

theorem onMemory_eq_ok {action : MemoryM α} {s s' : Machine} {a : α}
    (h : onMemory action s = .ok a s') :
    ∃ m, action s.memory = .ok a m ∧ s' = { s with memory := m } := by
  rw [onMemory_run] at h
  cases haction : action s.memory with
  | ok b m =>
    rw [haction] at h
    cases h
    exact ⟨m, rfl, rfl⟩
  | error e m =>
    rw [haction] at h
    cases h

theorem onStack_eq_ok {action : StackM α} {s s' : Machine} {a : α}
    (h : onStack action s = .ok a s') :
    ∃ u, action s.stack = .ok a u ∧ s' = { s with stack := u } := by
  rw [onStack_run] at h
  cases haction : action s.stack with
  | ok b u =>
    rw [haction] at h
    cases h
    exact ⟨u, rfl, rfl⟩
  | error e u =>
    rw [haction] at h
    cases h

theorem endState_onMemory (action : MemoryM α) (s : Machine) :
    endState (onMemory action s) = { s with memory := endState (action s.memory) } := by
  rw [onMemory_run]
  cases action s.memory <;> rfl

theorem endState_onStack (action : StackM α) (s : Machine) :
    endState (onStack action s) = { s with stack := endState (action s.stack) } := by
  rw [onStack_run]
  cases action s.stack <;> rfl

theorem onMemory_makes {action : MemoryM α} (h : Keeps Memory.size action) :
    Makes Change (onMemory action) := by
  intro s
  rw [endState_onMemory]
  exact .single (.memory _ (h s.memory))

theorem onStack_makes {action : StackM α} (h : Makes Stack.Change action) :
    Makes Change (onStack action) := by
  intro s
  rw [endState_onStack]
  have hstep (t t' : Stack) (ht : t.Change t') : Change { s with stack := t } { s with stack := t' } :=
    .stack ht
  exact h.lift _ hstep s.stack

/-- Asking changes nothing. -/
theorem ask_eq_ok {question : Memory → Header → Except Fault α} {s s' : Machine} {a : α}
    (h : ask question s = .ok a s') : question s.memory s.header = .ok a ∧ s' = s := by
  have hlift : (liftM (question s.memory s.header) : MachineM α) s = .ok a s' := h
  cases hanswer : question s.memory s.header with
  | ok b =>
    rw [hanswer] at hlift
    cases hlift
    exact ⟨rfl, rfl⟩
  | error e =>
    rw [hanswer] at hlift
    cases hlift

theorem ask_makes (question : Memory → Header → Except Fault α) : Makes Change (ask question) :=
  leads_bind leads_get (fun _ => leads_liftExcept _)

theorem askObjects_makes (question : ObjectTable → Memory → Except Fault α) :
    Makes Change (askObjects question) :=
  ask_makes _

theorem onObjects_makes {action : ObjectTable → MemoryM α} (h : ∀ t, Keeps Memory.size (action t)) :
    Makes Change (onObjects action) :=
  leads_bind leads_get (fun _ => onMemory_makes (h _))

theorem syncHeader_makes (c : Config) : Makes Change (syncHeader c) := by
  unfold syncHeader
  refine leads_bind (makes_modify (fun _ => .random _)) (fun _ => leads_bind leads_get (fun s => ?_))
  exact onMemory_makes (Header.writeCapabilities_keeps_size s.header c)

theorem readVar_makes (v : Variable) : Makes Change (readVar v) := by
  unfold readVar
  refine leads_ite (fun _ => onStack_makes Stack.pop_makes) (fun _ => ?_)
  exact leads_ite (fun _ => onStack_makes (Stack.getLocal_makes _)) (fun _ => ask_makes _)

theorem writeVar_makes (v : Variable) (value : UInt16) : Makes Change (writeVar v value) := by
  unfold writeVar
  refine leads_ite (fun _ => onStack_makes (Stack.push_makes value)) (fun _ => ?_)
  refine leads_ite (fun _ => onStack_makes (Stack.setLocal_makes _ value)) (fun _ => ?_)
  refine leads_bind leads_get (fun s => ?_)
  exact onMemory_makes (Memory.write16_keeps_size _ value)

theorem readIndirect_makes (v : Variable) : Makes Change (readIndirect v) :=
  leads_ite (fun _ => onStack_makes Stack.peek_makes) (fun _ => readVar_makes v)

theorem writeIndirect_makes (v : Variable) (value : UInt16) :
    Makes Change (writeIndirect v value) :=
  leads_ite (fun _ => onStack_makes (Stack.replaceTop_makes value)) (fun _ => writeVar_makes v value)

theorem store_makes (storer : Option Variable) (value : UInt16) :
    Makes Change (store storer value) := by
  cases storer with
  | none => exact leads_pure ()
  | some v => exact writeVar_makes v value

theorem selectStream_makes (stream : Int) (table : UInt32) :
    Makes Change (selectStream stream table) := by
  unfold selectStream
  refine leads_get_bind (fun s => ?_)
  by_cases h1 : stream = 1
  · rw [if_pos h1]
    exact .single (.streams _)
  rw [if_neg h1]
  by_cases h2 : stream = -1
  · rw [if_pos h2]
    exact .single (.streams _)
  rw [if_neg h2]
  by_cases h3 : stream = 3
  · rw [if_pos h3]
    have hopen : Makes Change (do
        onMemory (Memory.write16 table.toNat 0)
        modify fun s => { s with streams.tables := ⟨table, 0⟩ :: s.streams.tables }) :=
      leads_bind (onMemory_makes (Memory.write16_keeps_size _ 0))
        (fun _ => makes_modify (fun _ => .streams _))
    exact leads_ite (fun _ => leads_bind (leads_throw _) (fun _ => hopen)) (fun _ => hopen) s
  rw [if_neg h3]
  by_cases h4 : stream = -3
  · rw [if_pos h4]
    cases s.streams.tables with
    | nil => exact .refl
    | cons done rest =>
      exact .head (.streams _) (onMemory_makes (Memory.write16_keeps_size _ done.written)
        { s with streams := { s.streams with tables := rest } })
  · rw [if_neg h4]
    exact .refl

theorem writeTable_makes (zscii : List UInt8) : Makes Change (writeTable zscii) := by
  unfold writeTable
  refine leads_bind leads_get (fun s => ?_)
  cases s.streams.tables with
  | nil => exact leads_pure ()
  | cons t rest =>
    refine leads_bind (onMemory_makes (Memory.writeBytes_keeps_size _ zscii)) (fun _ => ?_)
    refine leads_bind (makes_modify (fun _ => .streams _)) (fun _ => ?_)
    exact onMemory_makes (Memory.write16_keeps_size _ _)

end Machine

/-! ## Changes of a context -/

namespace Context

/-- What only a transfer of control or a request changes. -/
def course (c : Context) : ((Header × Memory × Bool × Nat) × UInt32) × Option Order :=
  (c.machine.setting, c.control)

/-- How an operation on the straight line changes a context. -/
inductive Change : Context → Context → Prop
  | machine {c : Context} {s : Machine} (h : c.machine.Change s) : Change c { c with machine := s }
  | window {c : Context} (w : Window) : Change c { c with window := w }
  | entropy {c : Context} (n : Entropy) : Change c { c with entropy := n }
  | journal {c : Context} (j : Journal) : Change c { c with journal := j }

theorem Change.course_eq {c c' : Context} (h : Change c c') : c'.course = c.course := by
  cases h with
  | machine hs => exact congrArg (·, c.control) hs.setting_eq
  | window | entropy | journal => rfl

variable {α : Type}

theorem onMachine_run (action : MachineM α) (c : Context) :
    onMachine action c = match action c.machine with
      | .ok a machine => .ok a { c with machine }
      | .error e machine => .error e { c with machine } :=
  rfl

theorem endState_onMachine (action : MachineM α) (c : Context) :
    endState (onMachine action c) = { c with machine := endState (action c.machine) } := by
  rw [onMachine_run]
  cases action c.machine <;> rfl

theorem onMachine_makes {action : MachineM α} (h : Makes Machine.Change action) :
    Makes Change (onMachine action) := by
  intro c
  rw [endState_onMachine]
  have hstep (s s' : Machine) (hs : s.Change s') :
      Change { c with machine := s } { c with machine := s' } :=
    .machine hs
  exact h.lift _ hstep c.machine

theorem onMemory_makes {action : MemoryM α} (h : Keeps Memory.size action) :
    Makes Change (onMemory action) :=
  onMachine_makes (Machine.onMemory_makes h)

theorem ask_makes (question : Memory → Header → Except Fault α) : Makes Change (ask question) :=
  onMachine_makes (Machine.ask_makes question)

theorem onWindow_makes (change : Window → Window) : Makes Change (onWindow change) :=
  makes_modify (fun _ => .window _)

theorem note_makes (r : Record) : Makes Change (note r) :=
  makes_modify (fun _ => .journal _)

theorem store_makes (storer : Option Variable) (value : UInt16) :
    Makes Change (store storer value) :=
  onMachine_makes (Machine.store_makes storer value)

theorem print_makes (text : String) : Makes Change (print text) := by
  unfold print
  refine leads_bind leads_get (fun c => leads_ite (fun _ => ?_) (fun _ => ?_))
  · exact leads_bind (ask_makes _) (fun extra => onMachine_makes (Machine.writeTable_makes _))
  · exact leads_ite (fun _ => onWindow_makes _) (fun _ => leads_pure ())

theorem printZString_makes (address : Nat) : Makes Change (printZString address) := by
  unfold printZString
  refine leads_bind (ask_makes _) (fun decoded => ?_)
  exact leads_bind (print_makes decoded.text) (fun _ => leads_pure _)

theorem charOf_makes (code : UInt16) : Makes Change (charOf code) :=
  leads_bind (ask_makes _) (fun _ => leads_pure _)

theorem printZscii_makes (code : UInt16) : Makes Change (printZscii code) := by
  unfold printZscii
  refine leads_bind (charOf_makes code) (fun found => ?_)
  cases found with
  | none => exact leads_pure ()
  | some c => exact print_makes _

theorem catchCookie_makes : Makes Change catchCookie :=
  leads_bind leads_get (fun _ => leads_pure _)

theorem argCount_makes : Makes Change argCount := by
  unfold argCount
  refine leads_bind leads_get (fun c => ?_)
  cases c.machine.stack.frames with
  | nil => exact leads_pure 0
  | cons f rest => exact leads_pure f.argCount

theorem draw_run (range : Nat) (c : Context) :
    draw range c = .ok (.ofNat (c.machine.random.next c.entropy range).1)
      { c with
        machine := { c.machine with random := (c.machine.random.next c.entropy range).2.1 }
        entropy := (c.machine.random.next c.entropy range).2.2 } :=
  rfl

/-- The generator of the machine and then the supply of seeds change. -/
theorem draw_makes (range : Nat) : Makes Change (draw range) :=
  fun _ => .tail (.single (.machine (.random _))) (.entropy _)

/-! ## Actions within the machine -/

/-- An action reads the machine and changes it, and has nothing to do with the rest of a context. -/
def WithinMachine (x : Exec α) : Prop :=
  ∀ c d : Context, d.machine = c.machine → x d = match x c with
    | .ok a c' => .ok a { d with machine := c'.machine }
    | .error e c' => .error e { d with machine := c'.machine }

section
variable {β τ : Type} {x : Exec α}

theorem WithinMachine.of_ok (h : WithinMachine x) {c c' d : Context} {a : α}
    (hcd : d.machine = c.machine) (hc : x c = .ok a c') :
    x d = .ok a { d with machine := c'.machine } := by
  rw [h c d hcd, hc]

theorem WithinMachine.of_error (h : WithinMachine x) {c c' d : Context} {e : Fault}
    (hcd : d.machine = c.machine) (hc : x c = .error e c') :
    x d = .error e { d with machine := c'.machine } := by
  rw [h c d hcd, hc]

/-- What does not depend on the machine is kept. -/
theorem WithinMachine.keeps (h : WithinMachine x) {f : Context → τ}
    (hf : ∀ (c : Context) (s : Machine), f { c with machine := s } = f c) : Keeps f x := by
  intro c
  cases hc : x c with
  | ok a c' =>
    have hown := h.of_ok rfl hc
    rw [hc] at hown
    rw [hown]
    exact hf c _
  | error e c' =>
    have hown := h.of_error rfl hc
    rw [hc] at hown
    rw [hown]
    exact hf c _

theorem withinMachine_onMachine (action : MachineM α) : WithinMachine (onMachine action) := by
  intro c d hcd
  rw [onMachine_run, onMachine_run, hcd]
  cases action c.machine <;> rfl

theorem withinMachine_throw (e : Fault) : WithinMachine (throw e : Exec α) := by
  intro c d hcd
  show EStateM.Result.error e d = .error e { d with machine := c.machine }
  rw [← hcd]

theorem withinMachine_liftOutOfRange (r : Except OutOfRange α) :
    WithinMachine (liftM r : Exec α) := by
  intro c d hcd
  cases r with
  | ok a =>
    show EStateM.Result.ok a d = .ok a { d with machine := c.machine }
    rw [← hcd]
  | error e =>
    show EStateM.Result.error (Fault.outOfRange e) d =
      .error (.outOfRange e) { d with machine := c.machine }
    rw [← hcd]

theorem withinMachine_bind {g : α → Exec β} (hx : WithinMachine x)
    (hg : ∀ a, WithinMachine (g a)) : WithinMachine (x >>= g) := by
  intro c d hcd
  cases hc : x c with
  | ok a c' =>
    have hrest := hg a c' { d with machine := c'.machine } rfl
    rw [bind_ok hc, bind_ok (hx.of_ok hcd hc), hrest]
  | error e c' => rw [bind_error hc, bind_error (hx.of_error hcd hc)]

/-- What is got from the context has to be computed from the machine. -/
theorem withinMachine_get_bind {g : Context → Exec α}
    (hsame : ∀ c d : Context, d.machine = c.machine → g d = g c) (hg : ∀ c, WithinMachine (g c)) :
    WithinMachine (get >>= g) := by
  intro c d hcd
  rw [get_bind, get_bind, hsame c d hcd]
  exact hg c c d hcd

theorem withinMachine_ite {p : Prop} [Decidable p] {x y : Exec α} (hx : p → WithinMachine x)
    (hy : ¬ p → WithinMachine y) : WithinMachine (if p then x else y) := by
  split
  · next h => exact hx h
  · next h => exact hy h

end

theorem ret_withinMachine (value : UInt16) : WithinMachine (ret value) :=
  withinMachine_bind (withinMachine_onMachine _) (fun _ =>
    withinMachine_bind (withinMachine_onMachine _) (fun _ => withinMachine_onMachine _))

theorem call_withinMachine (packed : UInt16) (arguments : List UInt16) (storer : Option Variable) :
    WithinMachine (call packed arguments storer) := by
  unfold call
  refine withinMachine_ite (fun _ => withinMachine_onMachine _) (fun _ => ?_)
  refine withinMachine_get_bind (fun c d hcd => by rw [hcd]) (fun c => ?_)
  refine withinMachine_bind (withinMachine_liftOutOfRange _) (fun count => ?_)
  have henter (f : Frame) (address : UInt32) : WithinMachine (do
      onMachine (Machine.onStack (Stack.pushFrame f))
      jump address : Exec Unit) :=
    withinMachine_bind (withinMachine_onMachine _) (fun _ => withinMachine_onMachine _)
  exact withinMachine_ite (fun _ => withinMachine_bind (withinMachine_throw _) (fun _ => henter _ _))
    (fun _ => henter _ _)

theorem throwTo_withinMachine (value cookie : UInt16) : WithinMachine (throwTo value cookie) := by
  unfold throwTo
  refine withinMachine_get_bind (fun c d hcd => by rw [hcd]) (fun c => ?_)
  have hleave : WithinMachine (do
      onMachine (Machine.onStack (Stack.popFrames (c.machine.stack.depth - cookie.toNat)))
      ret value) :=
    withinMachine_bind (withinMachine_onMachine _) (fun _ => ret_withinMachine value)
  exact withinMachine_ite (fun _ => withinMachine_bind (withinMachine_throw _) (fun _ => hleave))
    (fun _ => hleave)

end Context

namespace Table

theorem rowText_makes (codes : List UInt8) : Makes Context.Change (rowText codes) :=
  leads_bind (leads_filterMapM (fun _ => Context.charOf_makes _) codes) (fun _ => leads_pure _)

theorem print_makes (width skip : Nat) (first : Bool) (rows address : Nat) :
    Makes Context.Change (print width skip first rows address) := by
  induction rows generalizing first address with
  | zero => exact leads_pure ()
  | succ rows ih =>
    unfold print
    have hrow : Makes Context.Change (do
        let codes ← (← get).machine.memory.readBytes address width
        Context.print (← rowText codes)
        print width skip false rows (address + width + skip) : Exec Unit) := by
      refine leads_bind leads_get (fun c => leads_bind (leads_liftOutOfRange _) (fun codes => ?_))
      refine leads_bind (rowText_makes codes) (fun text => ?_)
      exact leads_bind (Context.print_makes text) (fun _ => ih _ _)
    exact leads_ite (fun _ => leads_bind (Context.print_makes _) (fun _ => hrow)) (fun _ => hrow)

end Table

/-- Once its operands have their values, an instruction does what it says. -/
theorem Instruction.step_eq_perform {config : Config} {i : Instruction} {c c' : Context}
    {ops : List UInt16} (hops : operandValues i.operands c = .ok ops c')
    (h : isAboutNothing i.opcode ops = false) : i.step config c = i.perform config ops c' := by
  unfold step
  rw [bind_ok hops, h, if_neg (by decide)]

end ZMachine
