import ZMachine.Proofs.Engine.Discipline
import ZMachine.Proofs.Execution.Callee

/-!
# Throwing to a routine

A routine that catches learns how many routines are running.  With that number as the cookie a throw,
however many calls later, is a return from that routine, as if all it has called had been left before:

    throwTo value cookie c = ret value (c.unwound cookie.toNat)

The routines above are left one at a time, and each time the values are cut at the base of the one that
is left.  On a disciplined stack the bases go down on the way, so only the last cut counts: that of the
routine that the catching one has called.
-/

namespace ZMachine

namespace Stack

/-! ## Leaving several routines at once -/

/-- How high the values were before the last `count` routines were entered. -/
def heightBefore (count : Nat) (s : Stack) : Nat :=
  match (s.frames.take count).getLast? with
  | some f => f.stackBase
  | none => s.values.size

/-- The stack with no more than `depth` routines, without those that run above and without all that
they left on it. -/
def unwound (depth : Nat) (s : Stack) : Stack :=
  let count := s.depth - depth
  ⟨s.values.shrink (s.heightBefore count), s.frames.drop count⟩

theorem shrink_shrink (values : Array UInt16) {low high : Nat} (h : low ≤ high) :
    (values.shrink high).shrink low = values.shrink low := by
  refine Array.toList_inj.1 ?_
  simp only [Array.toList_shrink, List.take_take, Nat.min_eq_left h]

/-- Leaving routines one after another is leaving them at once. -/
theorem popFrames_of_descend (count : Nat) :
    ∀ {s : Stack}, Descend s.values.size s.frames → count ≤ s.depth →
      popFrames count s =
        .ok () ⟨s.values.shrink (s.heightBefore count), s.frames.drop count⟩ := by
  induction count with
  | zero =>
    intro s _ _
    have hall : s.values.shrink s.values.size = s.values := by simp
    show EStateM.Result.ok () s = .ok () ⟨s.values.shrink s.values.size, s.frames⟩
    rw [hall]
  | succ count ih =>
    intro s hbases hcount
    obtain ⟨f, rest, hframes⟩ : ∃ f rest, s.frames = f :: rest :=
      List.exists_cons_of_length_pos (by unfold depth at hcount; omega)
    unfold depth at hcount
    rw [hframes] at hbases hcount
    have hsize : (s.values.shrink f.stackBase).size = f.stackBase := by
      rw [Array.size_shrink]
      exact Nat.min_eq_left hbases.1
    have hrest := ih (s := ⟨s.values.shrink f.stackBase, rest⟩) (by rw [hsize]; exact hbases.2)
      (Nat.le_of_succ_le_succ hcount)
    -- the cut at the base of `f` is undone by a later cut, which is no higher
    have hheight : heightBefore count ⟨s.values.shrink f.stackBase, rest⟩ =
        s.heightBefore (count + 1) := by
      unfold heightBefore
      rw [hframes, List.take_succ_cons, List.getLast?_cons, hsize]
      cases (rest.take count).getLast? <;> rfl
    have hlow : s.heightBefore (count + 1) ≤ f.stackBase := by
      rw [← hheight]
      unfold heightBefore
      dsimp only
      split
      · next g hg => exact hbases.2.base_le g (List.mem_of_mem_take (List.mem_of_getLast? hg))
      · exact Nat.le_of_eq hsize
    unfold popFrames
    rw [bind_ok (popFrame_cons hframes), hrest, hheight, shrink_shrink _ hlow, hframes,
      List.drop_succ_cons]

end Stack

namespace Context

/-! ## What a throw does -/

/-- The context with no more than `depth` routines running. -/
def unwound (depth : Nat) (c : Context) : Context :=
  { c with machine.stack := c.machine.stack.unwound depth }

theorem throwTo_of_disciplined {c : Context} (hc : c.machine.stack.Disciplined) {cookie : UInt16}
    (hpos : cookie ≠ 0) (hle : cookie.toNat ≤ c.depth) (value : UInt16) :
    throwTo value cookie c = ret value (c.unwound cookie.toNat) := by
  have hfresh : ¬ (cookie = 0 ∨ c.machine.stack.depth < cookie.toNat) := by
    rintro (hzero | hlt)
    · exact hpos hzero
    · exact absurd hlt (Nat.not_lt.2 hle)
  have hpop := Stack.popFrames_of_descend (c.machine.stack.depth - cookie.toNat) hc.bases
    (Nat.sub_le _ _)
  have hleave : onMachine (Machine.onStack (Stack.popFrames
      (c.machine.stack.depth - cookie.toNat))) c = .ok () (c.unwound cookie.toNat) := by
    rw [onMachine_run, Machine.onStack_run, hpop]
    rfl
  unfold throwTo
  rw [get_bind]
  dsimp only
  rw [if_neg hfresh, bind_ok hleave]

/-- A throw that finds no routine for its cookie leaves all as it was. -/
theorem throwTo_of_stale {c : Context} {cookie : UInt16} (h : cookie = 0 ∨ c.depth < cookie.toNat)
    (value : UInt16) : throwTo value cookie c = .error (.staleFrame cookie.toNat c.depth) c := by
  unfold depth at h ⊢
  unfold throwTo
  rw [get_bind]
  dsimp only
  rw [if_pos h]
  rfl

/-! ## The discipline on the way -/

/-- The stack of the machine is disciplined, whatever those of the checkpoints are. -/
def Orderly (c : Context) : Prop :=
  c.machine.stack.Disciplined

theorem Change.orderly {c c' : Context} (h : Change c c') (hc : c.Orderly) : c'.Orderly := by
  cases h with
  | machine hs => exact hs.disciplined hc
  | window | entropy | journal => exact hc

theorem orderly_of_makes {α : Type} {x : Exec α} (hx : Makes Change x) :
    Leads (fun c c' => c.Orderly → c'.Orderly) x :=
  fun _ hc => hx.preserves (fun _ _ h => h.orderly) hc

/-- To an action within the machine the checkpoints are nothing, so there might as well be none. -/
theorem WithinMachine.orderly {x : Exec Unit} (hx : WithinMachine x) (hmakes : Makes Transfer x) :
    Leads (fun c c' => c.Orderly → c'.Orderly) x := by
  intro c hc
  let bare : Context := { c with undo := .ofDepth 1 }
  have hbare : bare.Disciplined := ⟨hc, Undo.disciplined_of_empty rfl⟩
  have hsame : bare.machine = c.machine := rfl
  have hend := (hmakes.preserves (fun _ _ h => h.disciplined) hbare).stack
  cases h : x c with
  | ok a c' =>
    rw [hx.of_ok hsame h] at hend
    exact hend
  | error e c' =>
    rw [hx.of_error hsame h] at hend
    exact hend

end Context

/-- Only going back to a checkpoint could bring a stack without discipline. -/
theorem Instruction.proceed_orderly (config : Config) {i : Instruction}
    (h : i.opcode ≠ .restoreUndo) :
    Leads (fun c c' => c.Orderly → c'.Orderly) (i.proceed config) := by
  intro c hc
  obtain ⟨c', y, hchanges, hy, hend⟩ := i.step_ends config { c with machine.pc := i.next }
  have horderly : c'.Orderly := by
    clear hy hend
    induction hchanges with
    | refl => exact hc
    | tail _ hchange ih => exact hchange.orderly ih
  have hsave : Leads (fun c c' => c.Orderly → c'.Orderly) (Context.saveUndo i.store) :=
    leads_bind (leads_modify (fun _ => id))
      (fun _ => Context.orderly_of_makes (Context.store_makes i.store 1))
  rw [Instruction.proceed_run, hend]
  cases hy with
  | stay | fault | jump | request => exact horderly
  | call packed arguments =>
    exact (Context.call_withinMachine packed arguments i.store).orderly
      (Context.call_makes packed arguments i.store) c' horderly
  | ret value =>
    exact (Context.ret_withinMachine value).orderly (Context.ret_makes value) c' horderly
  | throwTo value cookie =>
    exact (Context.throwTo_withinMachine value cookie).orderly (Context.throwTo_makes value cookie)
      c' horderly
  | saveUndo => exact hsave c' horderly
  | restoreUndo hop => exact absurd hop h

namespace Context

theorem Inside.orderly {depth : Nat} {c c' : Context} (h : Inside depth c c') (hc : c.Orderly) :
    c'.Orderly := by
  induction h with
  | refl => exact hc
  | tail _ hstep ih =>
    cases hstep.1 with
    | instruction config hopcode => exact Instruction.proceed_orderly config hopcode _ ih
    | input hs => exact (Change.machine hs).orderly ih

/-! ## The routine that catches -/

section
variable {s : Stack} {f : Frame} {rest : List Frame}

/-- The stack of the caller of the running routine. -/
theorem above_of_disciplined (hs : s.Disciplined) (hframes : s.frames = f :: rest) :
    Stack.Above ⟨s.values.shrink f.stackBase, rest⟩ f s := by
  have hbase : (s.values.shrink f.stackBase).size = f.stackBase := by
    have hle := hs.bases
    rw [hframes] at hle
    rw [Array.size_shrink]
    exact Nat.min_eq_left hle.1
  refine ⟨⟨[], f, hframes, rfl, rfl, hbase.symm, fun g hg => by cases hg⟩, ?_⟩
  show (s.values.shrink f.stackBase).toList <+: s.values.toList
  rw [Array.toList_shrink]
  exact List.take_prefix _ _

end

section
variable {caller : Stack} {f : Frame} {c : Context}

/-- The callee, once all it has called is left, returns to its caller. -/
theorem ret_unwound (habove : Above caller f c) (hc : c.Orderly) (value : UInt16) :
    ret value (c.unwound (caller.depth + 1)) = store f.storer value
      { c with machine := { c.machine with pc := f.returnPc, stack := caller } } := by
  have hlt : caller.depth < c.machine.stack.depth := habove.depth_lt
  have hdepth : (c.machine.stack.unwound (caller.depth + 1)).depth = caller.depth + 1 := by
    unfold Stack.depth at hlt ⊢
    unfold Stack.unwound Stack.depth
    rw [List.length_drop]
    omega
  have hpop := Stack.popFrames_of_descend (c.machine.stack.depth - (caller.depth + 1)) hc.bases
    (Nat.sub_le _ _)
  have hleaves := (Stack.popFrames_makes _).of_ok hpop
  have hcallee : Stack.Above caller f (c.machine.stack.unwound (caller.depth + 1)) :=
    habove.leaves hleaves (by show _ < Stack.depth (Stack.unwound _ _); omega)
  obtain ⟨g, hpc, hstorer, hleave⟩ := hcallee.popFrame hdepth
  have hret : Stack.popFrame (c.unwound (caller.depth + 1)).machine.stack = .ok g caller := hleave
  rw [ret_run hret, hpc, hstorer]
  rfl

end

end Context

namespace Instruction

variable {config : Config} {i : Instruction} {c c' : Context} {ops : List UInt16}

/-- A catch stores how many routines are running. -/
theorem proceed_catch (hop : i.opcode = .catchFrame)
    (hops : operandValues i.operands { c with machine.pc := i.next } = .ok ops c') :
    i.proceed config c = Context.store i.store (.ofNat c.depth) c' := by
  have hkeeps : Keeps Context.depth (operandValues i.operands) :=
    (operandValues_makes i.operands).keeps (fun _ _ h => h.depth_eq)
  have hkept := hkeeps.of_ok hops
  have hdepth : c'.depth = c.depth := hkept
  rw [proceed_run, step_eq_perform hops (by rw [hop]; rfl), ← hdepth]
  unfold perform
  rw [hop]
  rfl

theorem proceed_throw (hop : i.opcode = .throwFrame)
    (hops : operandValues i.operands { c with machine.pc := i.next } = .ok ops c') :
    i.proceed config c = Context.throwTo (ops.getD 0 0) (ops.getD 1 0) c' := by
  rw [proceed_run, step_eq_perform hops (by rw [hop]; rfl)]
  unfold perform
  rw [hop]

end Instruction

namespace Context

/-- A throw is a return from the routine that caught.  If a routine `f` executes a catch, and what
happens then does not leave it, a throw to its cookie is the same as a return from it after all routines
above it have been left with what they left on the stack: it goes on in the caller of `f`, with just the
caller's frames and values, and stores the value where the call of `f` asks for it.  This is so
also when the throw is an instruction that takes its operands from the stack.  A throw with a cookie that
is 0 or above the number of running routines changes nothing. -/
theorem throw_returns_from_catcher {config : Config} {i : Instruction} {c₀ c : Context} {f : Frame}
    {rest : List Frame} (hstack : c₀.machine.stack.Disciplined)
    (hframes : c₀.machine.stack.frames = f :: rest) (hcatch : i.opcode = .catchFrame)
    (hinside : Inside rest.length (endState (i.proceed config c₀)) c) :
    ∃ cookie : UInt16, cookie.toNat = rest.length + 1 ∧
      (∀ ops c', Instruction.operandValues i.operands { c₀ with machine.pc := i.next } = .ok ops c' →
        i.proceed config c₀ = store i.store cookie c') ∧
      (∀ value, throwTo value cookie c = ret value (c.unwound (rest.length + 1)) ∧
        throwTo value cookie c = store f.storer value { c with machine := { c.machine with
          pc := f.returnPc
          stack := ⟨c₀.machine.stack.values.shrink f.stackBase, rest⟩ } }) ∧
      (∀ (config' : Config) (t : Instruction) (ops : List UInt16) (c' : Context),
        t.opcode = .throwFrame →
        Instruction.operandValues t.operands { c with machine.pc := t.next } = .ok ops c' →
        ops.getD 1 0 = cookie →
        t.proceed config' c = ret (ops.getD 0 0) (c'.unwound (rest.length + 1)) ∧
        t.proceed config' c = store f.storer (ops.getD 0 0) { c' with machine := { c'.machine with
          pc := f.returnPc
          stack := ⟨c₀.machine.stack.values.shrink f.stackBase, rest⟩ } }) ∧
      ∀ (d : Context) (value stale : UInt16), stale = 0 ∨ d.depth < stale.toNat →
        throwTo value stale d = .error (.staleFrame stale.toNat d.depth) d := by
  have hdepth : c₀.depth = rest.length + 1 := congrArg List.length hframes
  have hcookie : (UInt16.ofNat c₀.depth).toNat = rest.length + 1 := by
    have hmax : c₀.depth ≤ 1024 := hstack.frames
    rw [hdepth] at hmax ⊢
    exact Nat.mod_eq_of_lt (by omega)
  let caller : Stack := ⟨c₀.machine.stack.values.shrink f.stackBase, rest⟩
  -- the catch leaves the routine running and the stack in order, and so does all that follows
  have hmakes := i.step_makes_change config (by rw [hcatch]; rfl)
  have hinside : Inside caller.depth (endState (i.proceed config c₀)) c := hinside
  have habove : Above caller f c :=
    hinside.above (leads_of_makes hmakes { c₀ with machine.pc := i.next }
      (above_of_disciplined hstack hframes))
  have horderly : c.Orderly :=
    hinside.orderly (orderly_of_makes hmakes { c₀ with machine.pc := i.next } hstack)
  have hthrow {d : Context} (habove : Above caller f d) (horderly : d.Orderly) (value : UInt16) :
      throwTo value (.ofNat c₀.depth) d = ret value (d.unwound (rest.length + 1)) := by
    have hle : rest.length < d.depth := habove.depth_lt
    rw [throwTo_of_disciplined horderly (fun hzero => ?_) (by omega), hcookie]
    rw [hzero] at hcookie
    exact absurd hcookie (Nat.succ_ne_zero _).symm
  refine ⟨.ofNat c₀.depth, hcookie, fun ops c' hops => Instruction.proceed_catch hcatch hops,
    fun value => ⟨hthrow habove horderly value, ?_⟩, fun config' t ops c' hop hops hsame => ?_,
    fun d value stale hstale => throwTo_of_stale hstale value⟩
  · rw [hthrow habove horderly, ← ret_unwound habove horderly]
    rfl
  · have hchanges := Instruction.operandValues_makes t.operands
    have habove' := (leads_of_makes hchanges).of_ok hops habove
    have horderly' := (orderly_of_makes hchanges).of_ok hops horderly
    rw [Instruction.proceed_throw hop hops, hsame]
    exact ⟨hthrow habove' horderly' _,
      (hthrow habove' horderly' _).trans (ret_unwound habove' horderly' _)⟩

namespace CatchAndThrow

def catching : Instruction :=
  ⟨5, 7, .catchFrame, [], some .stack, none, none⟩

def calling : Instruction :=
  ⟨7, 10, .call1n, [.const 1], none, none, none⟩

/-- The routine has caught, has called itself, and has pushed 8 in that call. -/
def inner : Context :=
  let caught := endState (catching.proceed {} PushAndReturn.entered)
  endState (PushAndReturn.push.proceed {} (endState (calling.proceed {} caught)))

end CatchAndThrow

open CatchAndThrow in
theorem throw_returns_from_inner_call :
    inner.depth = 2 ∧ inner.machine.stack.values = #[5, 1, 8] ∧
      throwTo 2 1 inner = ret 2 (inner.unwound 1) ∧
      (endState (throwTo 2 1 inner)).machine.stack = { values := #[5, 2] } ∧
      (endState (throwTo 2 1 inner)).machine.pc = 9 := by
  have hinside : Inside 0 (endState (catching.proceed {} PushAndReturn.entered)) inner :=
    .tail (.single ⟨.instruction {} (i := calling) (by decide) _, by decide⟩)
      ⟨.instruction {} (i := PushAndReturn.push) (by decide) _, by decide⟩
  have hstack : PushAndReturn.entered.machine.stack.Disciplined := by decide
  have hframes : PushAndReturn.entered.machine.stack.frames =
      [⟨9, some .stack, [3, 0, 0, 0, 0, 0, 0], 1, 1⟩] := rfl
  obtain ⟨cookie, hcookie, -, hthrow, -⟩ :=
    throw_returns_from_catcher hstack hframes rfl hinside
  obtain rfl : cookie = 1 := UInt16.toNat_inj.1 hcookie
  exact ⟨by decide, by decide, (hthrow 2).1, by decide, by decide⟩

end Context
end ZMachine
