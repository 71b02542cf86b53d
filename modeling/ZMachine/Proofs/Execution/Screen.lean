import ZMachine.Block.Basic
import ZMachine.Proofs.Execution.Setting
import ZMachine.Proofs.Telling

/-!
# What a story tells the screen

An instruction tells the screen some calls: what it prints, while the text goes to the screen and not
into a table, or a setting.  The instructions of a block tell theirs one after another, and that is
all that becomes of the screen:

    window after = play calls (window before)

Text that is still pending has no influence on a story.  From two contexts that agree on all but the
pending text and the journal an action ends alike, in contexts that again agree, and tells the same
calls.

How much of the supply of seeds two contexts have to agree on is left open: all of it, for an action
that may draw a number, or nothing, for one that does not.
-/

namespace ZMachine

variable {ε α β κ : Type} {seen : Entropy → κ}

namespace Context

/-! ## Actions in a context -/

/-- All of a context but the pending text and the journal. -/
def core (c : Context) : Machine × Undo × Option Order × Entropy × Window.Settings :=
  (c.machine, c.undo, c.control, c.entropy, c.window.settings)

/-- The same, with as much of the supply of seeds as is seen. -/
def coreSeeing (seen : Entropy → κ) (c : Context) :
    Machine × Undo × Option Order × κ × Window.Settings :=
  (c.machine, c.undo, c.control, seen c.entropy, c.window.settings)

theorem machine_of_core {c d : Context} (h : d.coreSeeing seen = c.coreSeeing seen) :
    d.machine = c.machine :=
  congrArg Prod.fst h

/-- An action that tells the screen some calls. -/
abbrev Tells (seen : Entropy → κ) (x : Exec α) (calls : Context → List Window.Call) : Prop :=
  TellsOn (coreSeeing seen) window x calls

/-- An action that tells the screen nothing. -/
abbrev Quiet (seen : Entropy → κ) (x : Exec α) : Prop :=
  QuietOn (coreSeeing seen) window x

/-- No action within the machine tells the screen anything. -/
theorem WithinMachine.quiet {x : Exec α} (h : WithinMachine x) : Quiet seen x := by
  intro c d hcd
  have hmachine := machine_of_core hcd
  have hrest : (d.undo, d.control, seen d.entropy, d.window.settings) =
      (c.undo, c.control, seen c.entropy, c.window.settings) := congrArg Prod.snd hcd
  cases hc : x c with
  | ok a c' =>
    have hown := h.of_ok rfl hc
    rw [hc] at hown
    rw [h.of_ok hmachine hc, hown]
    exact ⟨rfl, congrArg (Prod.mk c'.machine) hrest, rfl⟩
  | error e c' =>
    have hown := h.of_error rfl hc
    rw [hc] at hown
    rw [h.of_error hmachine hc, hown]
    exact ⟨rfl, congrArg (Prod.mk c'.machine) hrest, rfl⟩

theorem onMachine_quiet (action : MachineM α) : Quiet seen (onMachine action) :=
  (withinMachine_onMachine action).quiet

theorem note_quiet (r : Record) : Quiet seen (note r) :=
  quiet_modify (fun _ _ hcd => hcd) (fun _ => rfl)

theorem request_quiet (order : Order) : Quiet seen (request order) :=
  quiet_modify (fun _ _ hcd => congrArg (fun k => (k.1, k.2.1, some order, k.2.2.2)) hcd)
    (fun _ => rfl)

/-- A change of the screen that is a call. -/
theorem onWindow_tells (call : Window.Call) :
    Tells seen (onWindow call.apply) (fun _ => [call]) := by
  intro c d hcd
  refine ⟨rfl, ?_, rfl⟩
  have hsettings : d.window.settings = c.window.settings := congrArg (·.2.2.2.2) hcd
  have hrest : (d.machine, d.undo, d.control, seen d.entropy) =
      (c.machine, c.undo, c.control, seen c.entropy) :=
    congrArg (fun k => (k.1, k.2.1, k.2.2.1, k.2.2.2.1)) hcd
  show (d.machine, d.undo, d.control, seen d.entropy, (call.apply d.window).settings) =
    (c.machine, c.undo, c.control, seen c.entropy, (call.apply c.window).settings)
  rw [Window.apply_settings call hsettings]
  exact congrArg (fun k => (k.1, k.2.1, k.2.2.1, k.2.2.2, (call.apply c.window).settings)) hrest

theorem store_quiet (storer : Option Variable) (value : UInt16) : Quiet seen (store storer value) :=
  onMachine_quiet _

theorem ask_quiet (question : Memory → Header → Except Fault α) : Quiet seen (ask question) :=
  onMachine_quiet _

theorem ret_quiet (value : UInt16) : Quiet seen (ret value) :=
  (ret_withinMachine value).quiet

theorem branch_quiet (b : Branch) (condition : Bool) : Quiet seen (branch b condition) := by
  unfold branch
  refine tells_ite (fun _ => ?_) (fun _ => quiet_pure ())
  cases b.target with
  | returnFalse => exact ret_quiet 0
  | returnTrue => exact ret_quiet 1
  | address target => exact onMachine_quiet _

theorem saveUndo_quiet (storer : Option Variable) : Quiet seen (saveUndo storer) := by
  unfold saveUndo
  refine quiet_bind (quiet_modify (fun _ _ hcd => ?_) (fun _ => rfl)) (fun _ => store_quiet storer 1)
  exact congrArg (fun k => (k.1, k.2.1.push (.capture k.1 storer), k.2.2)) hcd

theorem restoreUndo_quiet (config : Config) (storer : Option Variable) :
    Quiet seen (restoreUndo config storer) := by
  unfold restoreUndo
  have hsame (c d : Context) (hcd : d.coreSeeing seen = c.coreSeeing seen) : d.undo = c.undo :=
    congrArg (·.2.1) hcd
  refine quiet_get_bind (fun c d hcd => by rw [hsame c d hcd]) (fun c => ?_)
  cases c.undo.pop with
  | none => exact store_quiet storer 0
  | some r =>
    obtain ⟨p, u⟩ := r
    refine quiet_bind (quiet_modify (fun _ _ hcd => ?_) (fun _ => rfl)) (fun _ => ?_)
    · exact congrArg (fun k => (k.1, u, k.2.2)) hcd
    refine quiet_bind (onMachine_quiet _) (fun _ => ?_)
    exact quiet_bind (onMachine_quiet _) (fun _ => store_quiet _ 2)

/-- A number is drawn alike where the supply of seeds is the same. -/
theorem draw_quiet (range : Nat) : Quiet id (draw range) := by
  intro c d hcd
  have hentropy : d.entropy = c.entropy := congrArg (·.2.2.2.1) hcd
  rw [draw_run, draw_run, machine_of_core hcd, hentropy]
  refine ⟨rfl, ?_, rfl⟩
  exact congrArg (fun k => ({ c.machine with random := (c.machine.random.next c.entropy range).2.1 },
    k.2.1, k.2.2.1, (c.machine.random.next c.entropy range).2.2, k.2.2.2.2)) hcd

end Context

/-! ## Printing -/

/-- Whether text goes to the screen. -/
def OutputStreams.voiced (s : OutputStreams) : Bool :=
  !s.memoryActive && s.screen

/-- Text that goes into a table leaves the table selected. -/
theorem Machine.writeTable_keeps_active (zscii : List UInt8) :
    Leads (fun s s' : Machine => s.streams.memoryActive = true → s'.streams.memoryActive = true)
      (writeTable zscii) := by
  have honMemory (action : MemoryM Unit) : Leads (fun s s' : Machine =>
      s.streams.memoryActive = true → s'.streams.memoryActive = true) (onMemory action) := by
    intro s hs
    rw [endState_onMemory]
    exact hs
  unfold writeTable
  refine leads_bind leads_get (fun s => ?_)
  cases s.streams.tables with
  | nil => exact leads_pure ()
  | cons t rest =>
    refine leads_bind (honMemory _) (fun _ => ?_)
    exact leads_bind (leads_modify (fun _ _ => rfl)) (fun _ => honMemory _)

namespace Context

theorem ask_run (question : Memory → Header → Except Fault α) (c : Context) :
    ask question c = answer (question c.machine.memory c.machine.header) c := by
  have hask : Machine.ask question c.machine =
      answer (question c.machine.memory c.machine.header) c.machine := by
    unfold Machine.ask
    rw [get_bind]
    cases question c.machine.memory c.machine.header <;> rfl
  unfold ask
  rw [onMachine_run, hask]
  cases question c.machine.memory c.machine.header <;> rfl

theorem print_of_tables {c : Context} (h : c.machine.streams.memoryActive = true) (text : String) :
    print text c = (do
      let extra ← ask ExtraChars.ofStory
      onMachine (Machine.writeTable (extra.encode text))) c := by
  unfold print
  rw [get_bind, if_pos h]

theorem print_of_no_tables {c : Context} (h : c.machine.streams.memoryActive = false)
    (text : String) : print text c =
      (if c.machine.streams.screen then onWindow (.print text) else pure () : Exec Unit) c := by
  unfold print
  rw [get_bind, if_neg (by rw [h]; decide)]

theorem print_keeps_active {c c' : Context} {text : String} {u : Unit}
    (h : c.machine.streams.memoryActive = true) (hprint : print text c = .ok u c') :
    c'.machine.streams.memoryActive = true := by
  rw [print_of_tables h] at hprint
  obtain ⟨extra, c₁, hask, hwrite⟩ := bind_eq_ok hprint
  have hc : c₁ = c := by
    rw [ask_run] at hask
    cases hextra : ExtraChars.ofStory c.machine.memory c.machine.header <;> rw [hextra] at hask <;> cases hask
    rfl
  subst hc
  have hend := endState_onMachine (Machine.writeTable (extra.encode text)) c₁
  rw [hwrite] at hend
  rw [← endState_ok (ε := Fault) u c', hend]
  exact Machine.writeTable_keeps_active _ c₁.machine h

/-- Texts that are printed in turn, as far as they go to the screen. -/
def spoken (texts : Memory → Header → List String) (c : Context) : List Window.Call :=
  if c.machine.streams.voiced then (texts c.machine.memory c.machine.header).map .print else []

/-- An action that prints texts in turn and tells the screen nothing else. -/
abbrev Speaks (seen : Entropy → κ) (x : Exec α) (texts : Memory → Header → List String) : Prop :=
  Tells seen x (spoken texts)

theorem Quiet.speaks {x : Exec α} (h : Quiet seen x) : Speaks seen x (fun _ _ => []) :=
  TellsOn.of_eq h (fun c => by simp [spoken])

theorem spoken_of_tables {c : Context} (h : c.machine.streams.memoryActive = true)
    (texts : Memory → Header → List String) : spoken texts c = [] := by
  unfold spoken OutputStreams.voiced
  rw [h]
  rfl

theorem print_speaks (text : String) : Speaks seen (print text) (fun _ _ => [text]) := by
  intro c d hcd
  have hmachine := machine_of_core hcd
  cases htables : c.machine.streams.memoryActive with
  | true =>
    have hwrite : Quiet seen (do
        let extra ← ask ExtraChars.ofStory
        onMachine (Machine.writeTable (extra.encode text))) :=
      quiet_bind (ask_quiet _) (fun _ => onMachine_quiet _)
    rw [spoken_of_tables htables, print_of_tables htables, print_of_tables (hmachine ▸ htables)]
    exact hwrite c d hcd
  | false =>
    rw [print_of_no_tables htables, print_of_no_tables (hmachine ▸ htables), hmachine]
    unfold spoken OutputStreams.voiced
    rw [htables]
    cases c.machine.streams.screen with
    | true => exact onWindow_tells (.print text) c d hcd
    | false => exact quiet_pure () c d hcd

/-- A text is printed before the ones after it, from the same memory: it goes to the screen only while
no table takes it. -/
theorem print_bind_speaks (text : String) {g : Unit → Exec α} {texts : Memory → Header → List String}
    (hg : ∀ u, Speaks seen (g u) texts) :
    Speaks seen (print text >>= g) (fun m h => text :: texts m h) := by
  refine (tells_bind (print_speaks text) hg).of_eq (fun c => ?_)
  cases htables : c.machine.streams.memoryActive with
  | true =>
    rw [spoken_of_tables htables, spoken_of_tables htables]
    cases hprint : print text c with
    | ok u c' => exact spoken_of_tables (print_keeps_active htables hprint) texts
    | error e c' => rfl
  | false =>
    rw [print_of_no_tables htables]
    unfold spoken OutputStreams.voiced
    rw [htables]
    cases hscreen : c.machine.streams.screen with
    | true =>
      show [Window.Call.print text] ++ spoken texts { c with window := c.window.print text } = _
      unfold spoken OutputStreams.voiced
      rw [htables, hscreen]
      rfl
    | false =>
      show [] ++ spoken texts c = []
      unfold spoken OutputStreams.voiced
      rw [htables, hscreen]
      rfl

/-- The texts for an answer; a fault prints nothing. -/
def textsFor (answer : Except ε α) (texts : α → List String) : List String :=
  match answer with
  | .ok a => texts a
  | .error _ => []

/-- What is asked of the memory and the header decides what is printed. -/
theorem ask_bind_speaks (question : Memory → Header → Except Fault α) {g : α → Exec β}
    {texts : α → Memory → Header → List String} (hg : ∀ a, Speaks seen (g a) (texts a)) :
    Speaks seen (ask question >>= g)
      (fun m h => textsFor (question m h) (fun a => texts a m h)) := by
  refine (quiet_then (ask_quiet question) hg).of_eq (fun c => ?_)
  rw [ask_run]
  unfold spoken
  dsimp only
  cases question c.machine.memory c.machine.header with
  | ok a => rfl
  | error e => exact (ite_self _).symm

theorem read_bind_speaks (question : Memory → Except OutOfRange α) {g : α → Exec β}
    {texts : α → Memory → Header → List String} (hg : ∀ a, Speaks seen (g a) (texts a)) :
    Speaks seen (do
        let a ← question (← get).machine.memory
        g a) (fun m h => textsFor (question m) (fun a => texts a m h)) := by
  refine TellsOn.of_eq (tells_get_bind (fun c d hcd => by rw [machine_of_core hcd])
    (fun c => quiet_then (quiet_liftOutOfRange _) hg)) (fun c => ?_)
  unfold spoken
  dsimp only
  cases question c.machine.memory with
  | ok a => rfl
  | error e => exact (ite_self _).symm

/-- The text of the z-string at an address, if it can be read, and what comes after it. -/
def zstringTexts (address : Nat) (rest : List String) (m : Memory) (h : Header) : List String :=
  textsFor (ZString.decode m h address) (fun decoded => decoded.text :: rest)

theorem printZString_bind_speaks (address : Nat) {g : Nat → Exec α} {rest : List String}
    (hg : ∀ stop, Speaks seen (g stop) (fun _ _ => rest)) :
    Speaks seen (printZString address >>= g) (zstringTexts address rest) := by
  unfold printZString
  rw [bind_assoc]
  refine ask_bind_speaks _ (fun decoded => ?_)
  rw [bind_assoc]
  exact print_bind_speaks decoded.text (fun _ => hg decoded.stop)

/-- The text of a code, if it has a character. -/
def zsciiTexts (code : UInt16) (m : Memory) (h : Header) : List String :=
  textsFor (ExtraChars.ofStory m h) (fun extra => ((extra.toChar? code).map Char.toString).toList)

theorem printZscii_speaks (code : UInt16) : Speaks seen (printZscii code) (zsciiTexts code) := by
  unfold printZscii charOf
  rw [bind_assoc]
  refine ask_bind_speaks _ (fun extra => ?_)
  rw [pure_bind]
  cases extra.toChar? code with
  | none => exact Quiet.speaks (quiet_pure ())
  | some c => exact print_speaks c.toString

end Context

namespace Table

/-- The text of a row of codes. -/
def rowOf (codes : List UInt8) (m : Memory) (h : Header) : Except Fault String := do
  let chars ← codes.filterMapM fun code => do
    return (← ExtraChars.ofStory m h).toChar? code.toUInt16
  return .ofList chars

/-- A row is asked of the memory and the header. -/
theorem rowText_eq (codes : List UInt8) : rowText codes = Context.ask (rowOf codes) := by
  funext c
  have hcode (code : UInt8) : Context.charOf code.toUInt16 c =
      answer (do
        return (← ExtraChars.ofStory c.machine.memory c.machine.header).toChar? code.toUInt16) c := by
    unfold Context.charOf
    rw [bind_answer _ (Context.ask_run _ c)]
    cases ExtraChars.ofStory c.machine.memory c.machine.header <;> rfl
  unfold rowText
  rw [bind_answer _ (filterMapM_answer hcode codes), Context.ask_run]
  unfold rowOf
  cases List.filterMapM (m := Except Fault) _ codes <;> rfl

/-- The texts of the rows of a table, as far as they can be read. -/
def texts (width skip : Nat) : (first : Bool) → (rows address : Nat) → Memory → Header → List String
  | _, 0, _, _, _ => []
  | first, rows + 1, address, m, h =>
    let row := Context.textsFor (m.readBytes address width) fun codes =>
      Context.textsFor (rowOf codes m h) fun text =>
        text :: texts width skip false rows (address + width + skip) m h
    if first then row else "\n" :: row

theorem print_speaks (width skip : Nat) (first : Bool) (rows address : Nat) :
    Context.Speaks seen (print width skip first rows address)
      (texts width skip first rows address) := by
  induction rows generalizing first address with
  | zero => exact Context.Quiet.speaks (quiet_pure ())
  | succ rows ih =>
    have hrow := Context.read_bind_speaks (·.readBytes address width) (fun codes =>
      Context.ask_bind_speaks (rowOf codes) (fun text =>
        Context.print_bind_speaks text (fun _ => ih false (address + width + skip))))
    simp only [← rowText_eq] at hrow
    cases first with
    | true => exact hrow
    | false => exact Context.print_bind_speaks "\n" (fun _ => hrow)

end Table

namespace Opcode

/-- Whether an operation prints. -/
def prints : Opcode → Bool
  | print | printRet | printAddr | printPaddr | printObj | printChar | printNum | printUnicode
  | newLine | printTable => true
  | _ => false

/-- Whether an operation sets something of the screen. -/
def setsScreen : Opcode → Bool
  | splitWindow | setWindow | eraseWindow | eraseLine | setCursor | setTextStyle | setColour => true
  | _ => false

end Opcode

namespace Instruction

open Context

/-! ## What an instruction tells the screen -/

/-- The texts that an operation prints in turn. -/
def texts (i : Instruction) (ops : List UInt16) (m : Memory) (h : Header) : List String :=
  let a := ops.getD 0 0
  match i.opcode with
  | .print => match i.text with
    | some address => zstringTexts address.toNat [] m h
    | none => []
  | .printRet => match i.text with
    | some address => zstringTexts address.toNat ["\n"] m h
    | none => ["\n"]
  | .printAddr => zstringTexts a.toNat [] m h
  | .printPaddr => zstringTexts (h.unpack a) [] m h
  | .printObj => textsFor (h.objectTable.shortName m a) fun
    | some address => zstringTexts address [] m h
    | none => []
  | .printChar => zsciiTexts a m h
  | .printNum => [toString (signed a)]
  | .printUnicode => [(ExtraChars.charOr '?' a.toNat).toString]
  | .newLine => ["\n"]
  | .printTable =>
    if ops.length < 2 then []
    else
      let rows := if 2 < ops.length then (ops.getD 2 0).toNat else 1
      Table.texts (ops.getD 1 0).toNat (ops.getD 3 0).toNat true rows a.toNat m h
  | _ => []

/-- The setting of the screen that an operation makes. -/
def settingCalls (i : Instruction) (ops : List UInt16) : List Window.Call :=
  let a := ops.getD 0 0
  let b := ops.getD 1 0
  match i.opcode with
  | .splitWindow => [.splitWindow a]
  | .setWindow => [.setWindow a]
  | .eraseWindow => [.eraseWindow a.toInt16]
  | .eraseLine => if a = 1 then [.eraseLine] else []
  | .setCursor => if 0 < signed a then [.setCursor a b] else []
  | .setTextStyle => [.setStyle a]
  | .setColour => [.setColour a b]
  | _ => []

/-- What an operation tells the screen: a setting, or what it prints. -/
def performCalls (i : Instruction) (ops : List UInt16) (c : Context) : List Window.Call :=
  i.settingCalls ops ++ spoken (i.texts ops) c

/-- What an instruction tells the screen. -/
def calls (i : Instruction) (c : Context) : List Window.Call :=
  callsAfter (operandValues i.operands c) i.performCalls

theorem operandValues_quiet (operands : List Operand) : Quiet seen (operandValues operands) := by
  induction operands with
  | nil => exact quiet_pure []
  | cons operand rest ih =>
    cases operand with
    | const v => exact quiet_bind ih (fun _ => quiet_pure _)
    | var source =>
      exact quiet_bind (onMachine_quiet _) (fun v => quiet_bind ih (fun _ => quiet_pure _))

theorem need_quiet (i : Instruction) (ops : List UInt16) (n : Nat) : Quiet seen (i.need ops n) :=
  tells_ite (fun _ => quiet_throw _) (fun _ => quiet_pure ())

theorem branchIf_quiet (i : Instruction) (condition : Bool) : Quiet seen (i.branchIf condition) := by
  unfold branchIf
  cases i.branch with
  | none => exact quiet_pure ()
  | some b => exact branch_quiet b condition

theorem stepVariable_quiet (number delta : UInt16) : Quiet seen (stepVariable number delta) :=
  quiet_bind (onMachine_quiet _)
    (fun _ => quiet_bind (onMachine_quiet _) (fun _ => quiet_pure _))

/-- A result that is computed first and then stored. -/
theorem result_quiet {α : Type} {x : Exec α} (hx : Quiet seen x) (storer : Option Variable)
    (value : α → UInt16) : Quiet seen (do Context.store storer (value (← x))) :=
  quiet_bind hx (fun _ => store_quiet storer _)

/-- A condition that is computed first and then decides a branch. -/
theorem condition_quiet {α : Type} {x : Exec α} (hx : Quiet seen x) (i : Instruction)
    (condition : α → Bool) : Quiet seen (do i.branchIf (condition (← x))) :=
  quiet_bind hx (fun _ => i.branchIf_quiet _)

/-- A result that is stored and, unless it is 0, decides a branch. -/
theorem found_quiet (i : Instruction) (value : UInt16) :
    Quiet seen (do
      Context.store i.store value
      i.branchIf (value != 0)) :=
  quiet_bind (store_quiet i.store value) (fun _ => i.branchIf_quiet _)

/-- A positive operand asks for a number, any other one changes the mode. -/
theorem perform_random (config : Config) {i : Instruction} (hop : i.opcode = .random)
    (ops : List UInt16) : i.perform config ops =
      if 0 < signed (ops.getD 0 0) then draw (ops.getD 0 0).toNat >>= Context.store i.store
      else (do
        onMachine (modify fun s => { s with random := .ofSeed (signed (ops.getD 0 0)).natAbs })
        Context.store i.store 0) := by
  unfold perform
  rw [hop]

/-- Where the supply of seeds is the same, a number is drawn alike. -/
theorem random_quiet (config : Config) (i : Instruction) (ops : List UInt16)
    (hop : i.opcode = .random) : Quiet id (i.perform config ops) := by
  rw [perform_random config hop]
  refine tells_ite (fun _ => quiet_bind (draw_quiet _) (fun _ => store_quiet i.store _)) (fun _ => ?_)
  exact quiet_bind (onMachine_quiet _) (fun _ => store_quiet i.store 0)

/-- An operation that neither prints nor sets something of the screen tells it nothing.  Whether as
much of the supply of seeds as is seen decides about a number is for `hrandom` to say. -/
theorem perform_quiet (config : Config) (i : Instruction) (ops : List UInt16)
    (hrandom : i.opcode = .random → Quiet seen (i.perform config ops))
    (hprints : i.opcode.prints = false) (hsets : i.opcode.setsScreen = false) :
    Quiet seen (i.perform config ops) := by
  by_cases hdraws : i.opcode = .random
  · exact hrandom hdraws
  unfold perform
  dsimp only
  cases hop : i.opcode with
  | add | sub | mul | or | and | not | logShift | artShift | checkUnicode | setFont =>
    exact store_quiet i.store _
  | div | mod =>
    refine quiet_bind (need_quiet i ops 2) (fun _ => ?_)
    exact tells_ite (fun _ => quiet_bind (quiet_throw _) (fun _ => store_quiet i.store _))
      (fun _ => store_quiet i.store _)
  | je => exact quiet_bind (need_quiet i ops 1) (fun _ => i.branchIf_quiet _)
  | jl | jg | jz | test | piracy => exact i.branchIf_quiet _
  | decChk => exact condition_quiet (stepVariable_quiet _ _) i _
  | incChk => exact condition_quiet (stepVariable_quiet _ _) i _
  | jump => exact onMachine_quiet _
  | store | push | setAttr | clearAttr | insertObj | removeObj => exact onMachine_quiet _
  | load | getParent | getProp | getPropAddr | getNextProp =>
    exact result_quiet (onMachine_quiet _) i.store id
  | inc | dec => exact quiet_bind (stepVariable_quiet _ _) (fun _ => quiet_pure ())
  | pull => exact quiet_bind (onMachine_quiet _) (fun _ => onMachine_quiet _)
  | loadw | getPropLen => exact result_quiet (ask_quiet _) i.store id
  | loadb => exact result_quiet (ask_quiet _) i.store UInt8.toUInt16
  | storew | storeb | copyTable | putProp =>
    exact quiet_bind (need_quiet i ops 3) (fun _ => onMachine_quiet _)
  | call1s | call2s | callVs | callVs2 | call1n | call2n | callVn | callVn2 =>
    exact quiet_bind (need_quiet i ops 1) (fun _ => (call_withinMachine _ _ i.store).quiet)
  | ret | rtrue | rfalse => exact ret_quiet _
  | retPopped => exact quiet_bind (onMachine_quiet _) (fun v => ret_quiet v)
  | catchFrame =>
    refine result_quiet (quiet_get_bind (fun c d hcd => ?_) (fun c => quiet_pure _)) i.store id
    rw [machine_of_core hcd]
  | throwFrame => exact (throwTo_withinMachine _ _).quiet
  | checkArgCount =>
    refine condition_quiet ?_ i _
    refine quiet_get_bind (fun c d hcd => by rw [machine_of_core hcd]) (fun c => ?_)
    cases c.machine.stack.frames with
    | nil => exact quiet_pure 0
    | cons f rest => exact quiet_pure f.argCount
  | jin | testAttr => exact condition_quiet (onMachine_quiet _) i _
  | getSibling | getChild => exact quiet_bind (onMachine_quiet _) (fun o => i.found_quiet o)
  | getCursor =>
    refine quiet_get_bind (fun c d hcd => ?_)
      (fun c => quiet_bind (onMachine_quiet _) (fun _ => onMachine_quiet _))
    have hcursor : d.window.cursor = c.window.cursor := congrArg (·.2.2.2.2.cursor) hcd
    exact congrArg (fun cursor : UInt16 × UInt16 => (do
      onMemory (Memory.write16 _ cursor.1)
      onMemory (Memory.write16 _ cursor.2) : Exec Unit)) hcursor
  | outputStream =>
    refine quiet_bind (onMachine_quiet _) (fun _ => ?_)
    exact tells_ite (fun _ => note_quiet _) (fun _ => quiet_pure ())
  | bufferMode | inputStream | soundEffect | nop => exact quiet_pure ()
  | scanTable =>
    refine quiet_bind (need_quiet i ops 3) (fun _ => ?_)
    exact quiet_bind (ask_quiet _) (fun found => i.found_quiet _)
  | random => exact absurd hop hdraws
  | verify =>
    refine quiet_get_bind (fun c d hcd => by rw [machine_of_core hcd]) (fun c => ?_)
    exact i.branchIf_quiet _
  | tokenise =>
    refine quiet_bind (need_quiet i ops 2) (fun _ => ?_)
    refine quiet_get_bind (fun c d hcd => by rw [machine_of_core hcd]) (fun c => ?_)
    exact quiet_bind (onMachine_quiet _) (fun _ => note_quiet _)
  | encodeText =>
    refine quiet_bind (need_quiet i ops 4) (fun _ => ?_)
    exact quiet_bind (ask_quiet _)
      (fun source => quiet_bind (ask_quiet _) (fun alphabet => onMachine_quiet _))
  | aread =>
    refine quiet_bind (need_quiet i ops 1) (fun _ => ?_)
    exact quiet_bind (ask_quiet _) (fun _ => request_quiet _)
  | readChar | restart | quit => exact request_quiet _
  | save =>
    refine tells_ite (fun _ => store_quiet _ _) (fun _ => ?_)
    refine quiet_get_bind (fun c d hcd => by rw [machine_of_core hcd]) (fun c => ?_)
    cases (Snapshot.capture c.machine i.store).encode c.machine.story with
    | ok data => exact request_quiet _
    | error e => exact quiet_throw _
  | restore => exact tells_ite (fun _ => store_quiet _ _) (fun _ => request_quiet _)
  | saveUndo => exact saveUndo_quiet i.store
  | restoreUndo => exact restoreUndo_quiet config i.store
  -- the operations that are about the screen
  | splitWindow | setWindow | eraseWindow | eraseLine | setCursor | setTextStyle | setColour =>
    rw [hop] at hsets
    cases hsets
  | _ =>
    rw [hop] at hprints
    cases hprints

section
variable {i : Instruction} {ops : List UInt16}

theorem settingCalls_eq_nil (h : i.opcode.setsScreen = false) : i.settingCalls ops = [] := by
  unfold settingCalls
  split <;> first
    | rfl
    | next hop =>
      rw [hop] at h
      cases h

theorem texts_eq_nil (h : i.opcode.prints = false) : i.texts ops = fun _ _ => [] := by
  funext m header
  unfold texts
  split <;> first
    | rfl
    | next hop =>
      rw [hop] at h
      cases h

end

/-- An operation that sets something. -/
theorem perform_sets (config : Config) (i : Instruction) (ops : List UInt16)
    (h : i.opcode.setsScreen = true) :
    Tells seen (i.perform config ops) (fun _ => i.settingCalls ops) := by
  unfold perform settingCalls
  dsimp only
  cases hop : i.opcode with
  | splitWindow => exact onWindow_tells (.splitWindow _)
  | setWindow => exact onWindow_tells (.setWindow _)
  | eraseWindow => exact onWindow_tells (.eraseWindow _)
  | setTextStyle => exact onWindow_tells (.setStyle _)
  | setColour => exact onWindow_tells (.setColour _ _)
  | eraseLine =>
    dsimp only
    split
    · exact onWindow_tells .eraseLine
    · exact quiet_pure ()
  | setCursor =>
    dsimp only
    split
    · exact onWindow_tells (.setCursor _ _)
    · exact quiet_pure ()
  | _ =>
    rw [hop] at h
    cases h

/-- An operation that prints. -/
theorem perform_prints (config : Config) (i : Instruction) (ops : List UInt16)
    (h : i.opcode.prints = true) : Speaks seen (i.perform config ops) (i.texts ops) := by
  unfold perform texts
  dsimp only
  cases hop : i.opcode with
  | print =>
    have hend : Quiet seen (if Opcode.print = Opcode.printRet then do
        Context.print "\n"
        ret 1
      else pure () : Exec Unit) :=
      tells_ite (fun hne => by cases hne) (fun _ => quiet_pure ())
    cases i.text with
    | none => exact hend.speaks
    | some address => exact printZString_bind_speaks address.toNat (fun _ => hend.speaks)
  | printRet =>
    have hend : Speaks seen (if Opcode.printRet = Opcode.printRet then do
        Context.print "\n"
        ret 1
      else pure () : Exec Unit) (fun _ _ => ["\n"]) :=
      print_bind_speaks "\n" (fun _ => (ret_quiet 1).speaks)
    cases i.text with
    | none => exact hend
    | some address => exact printZString_bind_speaks address.toNat (fun _ => hend)
  | printAddr => exact printZString_bind_speaks _ (fun _ => Quiet.speaks (quiet_pure ()))
  | printPaddr =>
    have hprint (c : Context) : Speaks seen (do
        let _ ← printZString (c.machine.header.unpack (ops.getD 0 0)))
        (zstringTexts (c.machine.header.unpack (ops.getD 0 0)) []) :=
      printZString_bind_speaks _ (fun _ => Quiet.speaks (quiet_pure ()))
    exact TellsOn.of_eq (tells_get_bind (fun c d hcd => by rw [machine_of_core hcd]) hprint)
      (fun _ => rfl)
  | printObj =>
    refine ask_bind_speaks (fun m h => h.objectTable.shortName m (ops.getD 0 0)) (fun found => ?_)
    cases found with
    | none => exact Quiet.speaks (quiet_pure ())
    | some address =>
      exact printZString_bind_speaks address (fun _ => Quiet.speaks (quiet_pure ()))
  | printChar => exact printZscii_speaks _
  | printNum | printUnicode | newLine => exact print_speaks _
  | printTable =>
    dsimp only
    unfold need
    by_cases hfew : ops.length < 2
    · simp only [if_pos hfew]
      exact Quiet.speaks (quiet_throw (Fault.missingOperands i.opcode i.address 2 ops.length))
    · simp only [if_neg hfew]
      exact Table.print_speaks _ _ true _ _
  | _ =>
    rw [hop] at h
    cases h

/-- What any operation tells the screen. -/
theorem perform_tells (config : Config) (i : Instruction) (ops : List UInt16)
    (hrandom : i.opcode = .random → Quiet seen (i.perform config ops)) :
    Tells seen (i.perform config ops) (i.performCalls ops) := by
  unfold performCalls
  cases hsets : i.opcode.setsScreen with
  | true =>
    have hprints : i.opcode.prints = false := by
      revert hsets
      cases i.opcode <;> decide
    refine TellsOn.of_eq (i.perform_sets config ops hsets) (fun c => ?_)
    rw [texts_eq_nil hprints]
    unfold spoken
    rw [List.map_nil, ite_self, List.append_nil]
  | false =>
    rw [settingCalls_eq_nil hsets]
    cases hprints : i.opcode.prints with
    | true => exact i.perform_prints config ops hprints
    | false =>
      rw [texts_eq_nil hprints]
      exact (i.perform_quiet config ops hrandom hprints hsets).speaks

/-- What any instruction tells the screen. -/
theorem step_tells (config : Config) (i : Instruction)
    (hrandom : ∀ ops, i.opcode = .random → Quiet seen (i.perform config ops)) :
    Tells seen (i.step config) i.calls := by
  unfold step
  refine quiet_then (operandValues_quiet i.operands) (fun ops => ?_)
  have hperform := i.perform_tells config ops (hrandom ops)
  refine tells_ite (fun _ => ?_) (fun _ => hperform)
  -- the journal has no part in what is told
  intro c d hcd
  exact hperform { c with journal := c.journal.note .objectMissing }
    { d with journal := d.journal.note .objectMissing } hcd

end Instruction

namespace Block

/-- What instructions tell the screen one after another. -/
def calls (config : Config) : List Instruction → Context → List Window.Call
  | [], _ => []
  | i :: rest, c =>
    let c := { c with machine.pc := i.next }
    i.calls c ++ callsAfter (i.step config c) (fun _ => calls config rest)

theorem executeAll_tells (config : Config) (instructions : List Instruction) :
    Context.Tells id (executeAll config instructions) (calls config instructions) := by
  induction instructions with
  | nil => exact quiet_pure ()
  | cons i rest ih =>
    refine TellsOn.of_eq (quiet_then (Context.onMachine_quiet _)
      (fun _ => tells_bind (i.step_tells config (i.random_quiet config)) (fun _ => ih)))
      (fun c => ?_)
    rfl

end Block
end ZMachine
