import ZMachine.Proofs.Engine.History
import ZMachine.Proofs.Execution.Screen

/-!
# Batches

The answer to an event is a batch: output for the screen, the status line if there is one, and one
control order.  What a story tells the screen while an event is handled is known from the blocks that
are executed; with the echo of a typed line before it, it makes the screen that is handed over:

    calls units envelope e        what the screen is told
    opening envelope e            the screen before it, with nothing pending

So a batch holds, for the main window, just what was sent there, in order.  Nothing is left for the
next batch, and when an event fails its text is dropped as a whole.
-/

namespace ZMachine

/-- A request closes a batch. -/
theorem Order.isControl_of_isRequest {order : Order} (h : order.isRequest = true) :
    order.isControl = true := by
  cases order <;> first
    | rfl
    | cases h

/-- Output does not close a batch. -/
theorem Order.isControl_of_isOutput {order : Order} (h : order.isOutput = true) :
    order.isControl = false := by
  cases order <;> first
    | rfl
    | cases h

namespace Run

/-! ## What a run tells the screen -/

/-- All of a run but the pending text and the journal. -/
def core (run : Run) :
    (Machine × Undo × Option Order × Entropy × Window.Settings) × Cache :=
  (run.context.core, run.cache)

/-- The screen of a run. -/
def window (run : Run) : Window :=
  run.context.window

/-- An action that tells the screen some calls. -/
abbrev Tells {α : Type} (x : RunM α) (calls : Run → List Window.Call) : Prop :=
  TellsOn core window x calls

/-- An action that tells the screen nothing. -/
abbrev Quiet {α : Type} (x : RunM α) : Prop :=
  QuietOn core window x

theorem machine_of_core {run other : Run} (h : other.core = run.core) :
    other.context.machine = run.context.machine :=
  congrArg (·.1.1) h

theorem note_quiet (r : Record) : Quiet (note r) :=
  quiet_modify (fun _ _ h => h) (fun _ => rfl)

theorem lookup_quiet (pc : UInt32) : Quiet (lookup pc) := by
  intro run other h
  have hcache : other.cache = run.cache := congrArg Prod.snd h
  rw [lookup_run, lookup_run, hcache]
  exact ⟨rfl, congrArg (fun k => (k.1, (run.cache.lookup pc).2)) h, rfl⟩

theorem fetch_quiet : Quiet fetch := by
  unfold fetch
  refine quiet_get_bind (fun run other h => by rw [machine_of_core h]) (fun run => ?_)
  refine quiet_bind (lookup_quiet _) (fun found => ?_)
  cases found with
  | some b => exact quiet_bind (note_quiet _) (fun _ => quiet_pure b)
  | none =>
    refine quiet_get_bind (fun run other h => by rw [machine_of_core h]) (fun run => ?_)
    refine quiet_bind (quiet_liftExcept _) (fun b => ?_)
    have hform : Quiet (do
        note .blockFormed
        modify fun r => { r with cache := r.cache.insert b }
        return b : RunM Block) := by
      refine quiet_bind (note_quiet _) (fun _ => ?_)
      refine quiet_bind (quiet_modify (fun _ _ h => ?_) (fun _ => rfl)) (fun _ => quiet_pure b)
      exact congrArg (fun k => (k.1, k.2.insert b)) h
    exact tells_ite (fun _ => quiet_bind (note_quiet _) (fun _ => hform)) (fun _ => hform)

theorem execute_tells (config : Config) (b : Block) :
    Tells (execute config b) (fun run => Block.calls config b.instructions run.context) := by
  intro run other h
  have htells := Block.executeAll_tells config b.instructions
  have hcache : other.cache = run.cache := congrArg Prod.snd h
  rw [execute_run, execute_run]
  unfold Block.execute
  cases hrun : Block.executeAll config b.instructions run.context with
  | ok u c =>
    obtain ⟨d, hother, hcore, hwindow⟩ := htells.of_ok (congrArg Prod.fst h) hrun
    rw [hother]
    exact ⟨rfl, congrArg₂ Prod.mk hcore hcache, hwindow⟩
  | error e c =>
    obtain ⟨d, hother, hcore, hwindow⟩ := htells.of_error (congrArg Prod.fst h) hrun
    rw [hother]
    exact ⟨rfl, congrArg₂ Prod.mk hcore hcache, hwindow⟩

theorem takeControl_quiet : Quiet takeControl := by
  rintro ⟨⟨s, w, u, control, n, j⟩, cache⟩ ⟨⟨s', w', u', control', n', j'⟩, cache'⟩ h
  simp only [core, Context.core, Prod.mk.injEq] at h
  obtain ⟨⟨rfl, rfl, rfl, rfl, hsettings⟩, rfl⟩ := h
  refine ⟨rfl, ?_, ?_⟩
  · unfold takeControl
    dsimp only
    split <;> simp [core, Context.core, hsettings]
  · unfold takeControl
    dsimp only
    split <;> rfl

/-- What a turn tells the screen: what the block does that it executes. -/
def turnCalls (config : Config) (run : Run) : List Window.Call :=
  callsAfter (fetch run) (fun b next => Block.calls config b.instructions next.context)

theorem turn_tells (config : Config) : Tells (turn config) (turnCalls config) := by
  refine TellsOn.of_eq (quiet_then fetch_quiet
    (fun b => tells_bind (execute_tells config b) (fun _ => takeControl_quiet))) (fun run => ?_)
  unfold turnCalls callsAfter
  cases fetch run with
  | ok b next =>
    dsimp only
    cases execute config b next <;> exact List.append_nil _
  | error e next => rfl

/-- What a run of at most `units` blocks tells the screen. -/
def calls (config : Config) : (units : Nat) → Run → List Window.Call
  | 0, _ => []
  | units + 1, run =>
    turnCalls config run ++ callsAfter (turn config run) fun
      | some _, _ => []
      | none, next => calls config units next

theorem loop_tells (config : Config) (units : Nat) : Tells (loop config units) (calls config units) := by
  induction units with
  | zero => exact quiet_pure Order.tick
  | succ units ih =>
    refine TellsOn.of_eq (tells_bind (turn_tells config) (fun control => ?_)) (fun run => rfl)
    cases control with
    | some order => exact quiet_pure order
    | none => exact ih

/-! ## What a run asks for -/

/-- What the host is asked for is something that a story can ask for. -/
def Asks (c : Context) : Prop :=
  ∀ order, c.control = some order → order.isRequest = true

theorem execute_asks (config : Config) (b : Block) :
    Leads (fun run next : Run => Asks run.context → Asks next.context) (execute config b) := by
  intro run hrun
  rw [endState_execute]
  refine (Block.executeAll_makes config b.instructions).preserves (P := Asks) ?_ hrun
  intro c c' hstep hc
  cases hstep with
  | change h =>
    have hcontrol : c'.control = c.control := congrArg Prod.snd h.course_eq
    unfold Asks
    rw [hcontrol]
    exact hc
  | request h =>
    intro order horder
    cases horder
    exact h
  | jump | enter | leave | keep | drop | back => exact hc

/-- A turn hands over what was asked for, and then nothing is asked for. -/
theorem turn_asks {config : Config} {run next : Run} {control : Option Order} (hrun : Asks run.context)
    (h : turn config run = .ok control next) :
    (∀ order, control = some order → order.isRequest = true) ∧ next.context.control = none := by
  unfold turn at h
  obtain ⟨b, fetched, hfetch, h⟩ := bind_eq_ok h
  obtain ⟨u, executed, hexecute, htake⟩ := bind_eq_ok h
  have hkept : fetched.context.control = run.context.control :=
    (fetch_keeps_context (f := Context.control) (fun _ _ => rfl)).of_ok hfetch
  have hasks : Asks executed.context := by
    refine (execute_asks config b).of_ok hexecute ?_
    unfold Asks
    rw [hkept]
    exact hrun
  refine ⟨?_, ?_⟩
  · rw [← takeControl_fst htake]
    exact hasks
  · obtain ⟨⟨s, w, u, control, n, j⟩, cache⟩ := executed
    unfold takeControl at htake
    cases htake
    dsimp only
    split <;> rfl

/-- A run ends with a control order. -/
theorem loop_isControl {config : Config} {units : Nat} {run last : Run} {control : Order}
    (hrun : Asks run.context) (h : loop config units run = .ok control last) : control.isControl = true := by
  induction units generalizing run with
  | zero =>
    cases h
    rfl
  | succ units ih =>
    unfold loop at h
    obtain ⟨asked, next, hturn, hrest⟩ := bind_eq_ok h
    obtain ⟨hrequest, hnone⟩ := turn_asks hrun hturn
    cases asked with
    | none =>
      refine ih (fun order horder => ?_) hrest
      rw [hnone] at horder
      cases horder
    | some order =>
      cases hrest
      exact Order.isControl_of_isRequest (hrequest _ rfl)

end Run

/-- A line that was typed is shown. -/
def Event.echo : Event → List Window.Call
  | .read i => [.print i.response, .print "\n"]
  | _ => []

namespace Engine

/-! ## Handing over -/

/-- The screen after all of it was handed over. -/
def settled (w : Window) : Window :=
  w.flush.2.takeStatus.2

theorem settled_settings (w : Window) : (settled w).settings = w.settings := by
  have hflush : w.flush.2.settings = w.settings := w.closeRun_settings
  unfold settled Window.takeStatus
  split
  · exact hflush
  · exact hflush

theorem settled_idle (w : Window) : (settled w).Idle := by
  have hrun : w.flush.2.run = "" := w.closeRun_run
  unfold settled Window.takeStatus
  split
  · next h => exact ⟨rfl, hrun, String.isEmpty_iff.1 h⟩
  · exact ⟨rfl, hrun, rfl⟩

/-- The order for the status line, if there is one. -/
def statusOrders (w : Window) : List Order :=
  if w.status.isEmpty then [] else [.stream .status w.status 0]

theorem deliver_eq (control : Order) (w : Window) :
    deliver control w = (w.closeRun.orders.toList ++ statusOrders w ++ [control], settled w) := by
  unfold deliver settled statusOrders Window.takeStatus Window.flush
  dsimp only
  rw [w.closeRun_status]
  by_cases hstatus : w.status.isEmpty = true
  · rw [if_pos hstatus, if_pos hstatus]
  · rw [if_neg hstatus, if_neg hstatus]

/-- Output for the screen, at most one status line, and one control order. -/
def IsBatch (orders : List Order) : Prop :=
  ∃ out status control, orders = out ++ status ++ [control] ∧
    (∀ order ∈ out, order.isOutput = true ∧ order.isControl = false) ∧
    (status = [] ∨ ∃ text, status = [Order.stream .status text 0]) ∧
    control.isControl = true

theorem deliver_isBatch {control : Order} {w : Window} (hw : w.Orderly)
    (hcontrol : control.isControl = true) : IsBatch (deliver control w).1 := by
  rw [deliver_eq]
  refine ⟨_, _, control, rfl, fun order horder => ?_, ?_, hcontrol⟩
  · have houtput := hw.closeRun order (Array.mem_toList_iff.1 horder)
    exact ⟨houtput, Order.isControl_of_isOutput houtput⟩
  · unfold statusOrders
    split
    · exact .inl rfl
    · exact .inr ⟨w.status, rfl⟩

/-- A batch holds the text that was pending. -/
theorem deliver_mainText {control : Order} (hcontrol : control.isControl = true) (w : Window) :
    mainText (deliver control w).1 = w.pending := by
  have hnone : control.glyphs = [] := by
    cases control <;> first
      | rfl
      | cases hcontrol
  have hstatus : mainText (statusOrders w) = [] := by
    unfold statusOrders
    split <;> rfl
  rw [deliver_eq, mainText_append, mainText_append, mainText_singleton, hnone, hstatus,
    w.closeRun_pending, List.append_nil, List.append_nil]

/-! ## The screen of an event -/

/-- The screen when an event begins.  A restart gets a new one. -/
def opening (envelope : Envelope) (e : Engine) : Window :=
  match envelope.event with
  | .restart => {}
  | _ => (ready envelope e).window

/-- What the screen is told while an event is handled, before the story runs and by the story. -/
def calls (units : Config → Nat) (envelope : Envelope) (e : Engine) : List Window.Call :=
  match begin envelope e with
  | .ok true e' =>
    envelope.event.echo ++ match e'.toRun? with
      | some run => run.calls e'.config (units e'.config)
      | none => []
  | _ => []

theorem ready_window (envelope : Envelope) (e : Engine) :
    (ready envelope e).window = settled e.window := by
  unfold ready prepare
  cases envelope.env <;> rfl

theorem opening_idle (envelope : Envelope) (e : Engine) : (opening envelope e).Idle := by
  unfold opening
  split
  · exact ⟨rfl, rfl, rfl⟩
  · rw [ready_window]
    exact settled_idle e.window

theorem onMachine_keeps_window {α : Type} (action : MachineM α) :
    Keeps Engine.window (onMachine action) := by
  intro e
  cases hmachine : e.machine with
  | none => rw [onMachine_none hmachine, endState_error]
  | some s => rw [endState_onMachine hmachine]

theorem restore_keeps_window (data : Option (List UInt8)) (storer : Option Variable) :
    Keeps Engine.window (restore data storer) := by
  unfold restore
  refine keeps_bind (onMachine_keeps_window _) (fun _ => ?_)
  cases data with
  | none => exact onMachine_keeps_window _
  | some bytes =>
    refine keeps_bind (onMachine_keeps_window _) (fun found => ?_)
    cases found with
    | none => exact keeps_bind (keeps_modify (fun _ => rfl)) (fun _ => onMachine_keeps_window _)
    | some target =>
      refine keeps_bind keeps_get (fun e => ?_)
      exact keeps_bind (onMachine_keeps_window _) (fun _ => onMachine_keeps_window _)

theorem charInput_keeps_window (key : Key) (storer : Variable) :
    Keeps Engine.window (charInput key storer) :=
  keeps_bind (onMachine_keeps_window _)
    (fun _ => keeps_bind (onMachine_keeps_window _) (fun _ => onMachine_keeps_window _))

theorem resume_keeps_window (result : Option StoreResult) :
    Keeps Engine.window (resume result) := by
  unfold resume
  refine keeps_bind (onMachine_keeps_window _) (fun _ => ?_)
  cases result with
  | none => exact keeps_pure ()
  | some r => exact onMachine_keeps_window _

/-- A line that is taken in is shown once. -/
theorem lineInput_window {lower : String → String} {i : LineInput} {e e' : Engine}
    (h : lineInput lower i e = .ok () e') :
    e'.window = e.window.play (Event.read i).echo := by
  unfold lineInput at h
  obtain ⟨_, e₁, hcheck, h⟩ := bind_eq_ok h
  obtain ⟨_, e₂, hterminator, h⟩ := bind_eq_ok h
  obtain ⟨_, e₃, hshow, h⟩ := bind_eq_ok h
  have hstore (write text words : MachineM Unit) : Keeps Engine.window (do
      onMachine write
      onMachine text
      if i.parse ≠ 0 then
        onMachine words
        note .lineSplit : EngineM Unit) := by
    refine keeps_bind (onMachine_keeps_window _) (fun _ => ?_)
    refine keeps_bind (onMachine_keeps_window _) (fun _ => ?_)
    refine keeps_ite (fun _ => ?_) (fun _ => keeps_pure ())
    exact keeps_bind (onMachine_keeps_window _) (fun _ => keeps_modify (fun _ => rfl))
  have hwindow : e'.window = e₃.window := by
    refine Keeps.of_ok (keeps_bind (onMachine_keeps_window _) (fun extra => ?_)) h
    exact keeps_ite (fun _ => keeps_bind (keeps_modify (fun _ => rfl)) (fun _ => hstore _ _ _))
      (fun _ => hstore _ _ _)
  rw [hwindow]
  cases hshow
  show (e₂.window.print i.response).print "\n" = (e.window.print i.response).print "\n"
  rw [(onMachine_keeps_window _).of_ok hterminator, (onMachine_keeps_window _).of_ok hcheck]

/-- The story runs with a screen on which only the echo was shown. -/
theorem begin_window {envelope : Envelope} {e e' : Engine} (h : begin envelope e = .ok true e') :
    e'.window = (opening envelope e).play envelope.event.echo := by
  obtain ⟨event, env⟩ := envelope
  cases event with
  | load data => cases h
  | restart =>
    rw [begin_restart] at h
    obtain ⟨u, e'', hrestart, hlast⟩ := bind_eq_ok h
    cases hlast
    rcases restart_cases (ready ⟨.restart, env⟩ e) with ⟨fault, -, hfault⟩ | ⟨s, -, hend⟩
    · rw [hfault] at hrestart
      cases hrestart
    · rw [hrestart, endState_ok] at hend
      rw [hend]
      rfl
  | restore data storer =>
    rw [begin_run] at h
    obtain ⟨u, e'', hrestore, hlast⟩ := bind_eq_ok h
    cases hlast
    exact (restore_keeps_window data storer).of_ok hrestore
  | read i =>
    rw [begin_run] at h
    obtain ⟨u, e'', hread, hlast⟩ := bind_eq_ok h
    cases hlast
    exact lineInput_window hread
  | char key storer =>
    rw [begin_run] at h
    obtain ⟨u, e'', hchar, hlast⟩ := bind_eq_ok h
    cases hlast
    exact (charInput_keeps_window key storer).of_ok hchar
  | resume result =>
    rw [begin_run] at h
    obtain ⟨u, e'', hresume, hlast⟩ := bind_eq_ok h
    cases hlast
    exact (resume_keeps_window result).of_ok hresume

/-- Only a load does not let the story run. -/
theorem begin_answer {envelope : Envelope} {e e' : Engine} {goes : Bool}
    (h : begin envelope e = .ok goes e') :
    goes = true ∨ goes = false ∧ ∃ data, envelope.event = .load data := by
  have htrue {x : EngineM Unit} {e : Engine} (h : (do x; return true) e = .ok goes e') :
      goes = true := by
    obtain ⟨u, e'', -, hlast⟩ := bind_eq_ok h
    cases hlast
    rfl
  obtain ⟨event, env⟩ := envelope
  rw [begin_run] at h
  cases event with
  | load data =>
    cases h
    exact .inr ⟨rfl, data, rfl⟩
  | restart | restore | read | char | resume => exact .inl (htrue h)

/-- An event that succeeds is a load, or its story runs. -/
theorem handleWithin_eq_ok {units : Config → Nat} {envelope : Envelope} {e e' : Engine}
    {orders : List Order} (h : handleWithin units envelope e = .ok orders e') :
    (orders = [] ∧ begin envelope e = .ok false e' ∧ ∃ data, envelope.event = .load data) ∨
      ∃ e'', begin envelope e = .ok true e'' ∧ run (units e''.config) e'' = .ok orders e' := by
  rw [handleWithin_eq] at h
  obtain ⟨goes, e'', hbegin, hrest⟩ := bind_eq_ok h
  rcases begin_answer hbegin with rfl | ⟨rfl, hload⟩
  · exact .inr ⟨e'', hbegin, hrest⟩
  · cases hrest
    exact .inl ⟨rfl, hbegin, hload⟩

/-- A run that succeeds hands over the screen that its loop ends with. -/
theorem run_eq_ok {units : Nat} {e e' : Engine} {orders : List Order}
    (h : run units e = .ok orders e') :
    ∃ r control last, e.toRun? = some r ∧ Run.loop e.config units r = .ok control last ∧
      orders = (deliver control last.context.window).1 ∧
      e' = { e with
        machine := some last.context.machine
        cache := last.cache
        undo := last.context.undo
        window := settled last.context.window
        entropy := last.context.entropy
        journal := last.context.journal.note .batchClosed } := by
  cases hrun : e.toRun? with
  | none =>
    have hmachine : e.machine = none := Option.map_eq_none_iff.1 hrun
    rw [run_none hmachine] at h
    cases h
  | some r =>
    rw [run_of_toRun? hrun] at h
    cases hloop : Run.loop e.config units r with
    | error fault last =>
      rw [hloop] at h
      cases h
    | ok control last =>
      rw [hloop] at h
      cases h
      exact ⟨r, control, last, rfl, hloop, rfl, rfl⟩

/-! ## Batches in turn -/

/-- The batches that some events are answered with; an event that fails has none. -/
def batches : List Turn → Engine → List (List Order)
  | [], _ => []
  | t :: rest, e =>
    match handleWithin t.1 t.2 e with
    | .ok orders e' => orders :: batches rest e'
    | .error _ e' => batches rest e'

/-- What was sent to the main window during the events that succeeded, one event after another. -/
def heard : List Turn → Engine → List Glyph
  | [], _ => []
  | t :: rest, e =>
    match handleWithin t.1 t.2 e with
    | .ok _ e' => Window.sent (calls t.1 t.2 e) (opening t.2 e) ++ heard rest e'
    | .error _ e' => heard rest e'

/-- The screen that is handed over is the one the event began with, after all that it was told. -/
theorem closing_window {units : Config → Nat} {envelope : Envelope} {e e' : Engine} {r last : Run}
    {control : Order} (hbegin : begin envelope e = .ok true e') (hr : e'.toRun? = some r)
    (hloop : Run.loop e'.config (units e'.config) r = .ok control last) :
    last.context.window = (opening envelope e).play (calls units envelope e) := by
  obtain ⟨s, -, hs⟩ := toRun?_eq_some hr
  have hstart : r.context.window = (opening envelope e).play envelope.event.echo := by
    rw [hs]
    exact begin_window hbegin
  have hplay := (Run.loop_tells e'.config (units e'.config)).window_eq r
  rw [hloop, endState_ok] at hplay
  have hcalls : calls units envelope e =
      envelope.event.echo ++ r.calls e'.config (units e'.config) := by
    unfold calls
    rw [hbegin]
    dsimp only
    rw [hr]
  rw [hcalls, Window.play_append, ← hstart]
  exact hplay

/-- The batch of an event whose story runs. -/
theorem batch_of_run {units : Config → Nat} {envelope : Envelope} {e e' e'' : Engine}
    {orders : List Order} (hbegin : begin envelope e = .ok true e'')
    (hrun : run (units e''.config) e'' = .ok orders e') :
    IsBatch orders ∧ mainText orders = Window.sent (calls units envelope e) (opening envelope e) ∧
      e'.window.Idle := by
  obtain ⟨r, control, last, hr, hloop, rfl, rfl⟩ := run_eq_ok hrun
  obtain ⟨horders, htext, hstatus⟩ := opening_idle envelope e
  have hclosing := closing_window hbegin hr hloop
  have hasks : Run.Asks r.context := by
    obtain ⟨s, -, rfl⟩ := toRun?_eq_some hr
    intro order horder
    cases horder
  have hcontrol := Run.loop_isControl hasks hloop
  refine ⟨deliver_isBatch ?_ hcontrol, ?_, settled_idle _⟩
  · have hopening : (opening envelope e).Orderly := by
      intro order horder
      rw [horders] at horder
      exact absurd horder (Array.not_mem_empty order)
    rw [hclosing]
    exact hopening.play _
  · have hnothing : (opening envelope e).pending = [] := by
      unfold Window.pending
      rw [horders, htext]
      rfl
    rw [deliver_mainText hcontrol, hclosing, Window.play_pending, hnothing, List.nil_append]

/-- Batches deliver the output exactly once.  The answer to an event other than a load is output,
then at most one status line, then one control order; its text for the main window is just what was
sent there while the event was handled; and nothing is left pending.  So over any events the
batches together hold just what was sent during those that succeeded, in order. -/
theorem batches_deliver_sent (e : Engine) :
    (∀ (units : Config → Nat) (envelope : Envelope) (orders : List Order) (e' : Engine),
      handleWithin units envelope e = .ok orders e' → (∀ data, envelope.event ≠ .load data) →
        IsBatch orders ∧
        mainText orders = Window.sent (calls units envelope e) (opening envelope e) ∧
        e'.window.Idle) ∧
      ∀ turns : List Turn, mainText (batches turns e).flatten = heard turns e := by
  refine ⟨fun units envelope orders e' h hevent => ?_, fun turns => ?_⟩
  · rcases handleWithin_eq_ok h with ⟨-, -, data, hload⟩ | ⟨e'', hbegin, hrun⟩
    · exact absurd hload (hevent data)
    · exact batch_of_run hbegin hrun
  · induction turns generalizing e with
    | nil => rfl
    | cons t rest ih =>
      unfold batches heard
      cases h : handleWithin t.1 t.2 e with
      | error fault e' => exact ih e'
      | ok orders e' =>
        rw [List.flatten_cons, mainText_append, ih e']
        refine congrArg (· ++ _) ?_
        rcases handleWithin_eq_ok h with ⟨rfl, hbegin, -⟩ | ⟨e'', hbegin, hrun⟩
        · have hnone : calls t.1 t.2 e = [] := by
            unfold calls
            rw [hbegin]
          rw [hnone]
          rfl
        · exact (batch_of_run hbegin hrun).2.1

/-- A story that prints a letter, reads a line of at most ten letters into the buffer at 0x50, and
quits. -/
def parrotStory : List UInt8 :=
  storyOf ([0xE5, 0x7F, 0x48, 0xE4, 0x0F, 0, 0x50, 0, 0, 0, 0xBA] ++ List.replicate 5 0 ++
    [10] ++ List.replicate 11 0)

/-- A line that answers its request. -/
def parrotLine : LineInput :=
  { response := "go", terminator := 13, buffer := 0x50, parse := 0, length := 10, storer := .stack }

theorem batches_deliver_parrot :
    ∃ orders e', handleWithin (fun _ => 1) ⟨.read parrotLine, none⟩
        (after (oneByOne [.load parrotStory, .restart]) (ofConfig {} ⟨0⟩)) = .ok orders e' ∧
      IsBatch orders ∧ mainText orders = [('g', 0), ('o', 0), ('\n', 0)] ∧ e'.window.Idle ∧
      mainText (batches (oneByOne [.load parrotStory, .restart, .read parrotLine])
        (ofConfig {} ⟨0⟩)).flatten = [('H', 0), ('g', 0), ('o', 0), ('\n', 0)] := by
  have hsent : Window.sent
      (calls (fun _ => 1) ⟨.read parrotLine, none⟩
        (after (oneByOne [.load parrotStory, .restart]) (ofConfig {} ⟨0⟩)))
      (opening ⟨.read parrotLine, none⟩
        (after (oneByOne [.load parrotStory, .restart]) (ofConfig {} ⟨0⟩))) =
        [('g', 0), ('o', 0), ('\n', 0)] := by
    decide +kernel
  have hheard : heard (oneByOne [.load parrotStory, .restart, .read parrotLine])
      (ofConfig {} ⟨0⟩) = [('H', 0), ('g', 0), ('o', 0), ('\n', 0)] := by
    decide +kernel
  have hgood : fault? (handleWithin (fun _ => 1) ⟨.read parrotLine, none⟩
      (after (oneByOne [.load parrotStory, .restart]) (ofConfig {} ⟨0⟩))) = none := by
    decide +kernel
  cases h : handleWithin (fun _ => 1) ⟨.read parrotLine, none⟩
      (after (oneByOne [.load parrotStory, .restart]) (ofConfig {} ⟨0⟩)) with
  | error fault e' =>
    rw [h] at hgood
    cases hgood
  | ok orders e' =>
    obtain ⟨hbatch, htext, hidle⟩ := (batches_deliver_sent _).1 _ _ _ _ h (fun _ => nofun)
    refine ⟨orders, e', rfl, hbatch, htext.trans hsent, hidle, ?_⟩
    exact ((batches_deliver_sent _).2 _).trans hheard

end Engine
end ZMachine
