import ZMachine.Proofs.Block.Refinement

/-!
# The caller of a routine

All routines share one stack of values, and only the base of the running one keeps it from the values
below.  Still nothing that a callee does, nor what the routines do that it calls, reaches its caller:
from the call until the callee is left the stack is that of the caller with more on top,

    values = values of the caller ++ ...
    frames = ... ++ frame of the callee :: frames of the caller

and the return that leaves the callee cuts it back to just that of the caller.  This holds for any
stack that a call is made on, also one without discipline.
-/

namespace ZMachine

namespace Stack

/-! ## The stack above a caller -/

/-- The callee with frame `f`, or a routine that runs for it, is running on the stack of its caller.
All bases from the callee's on are at the height of the caller's values or above. -/
structure Above (caller : Stack) (f : Frame) (s : Stack) : Prop where
  frames : ∃ inner g, s.frames = inner ++ g :: caller.frames ∧
    g.returnPc = f.returnPc ∧ g.storer = f.storer ∧ g.stackBase = caller.values.size ∧
    ∀ h ∈ inner, caller.values.size ≤ h.stackBase
  values : caller.values.toList <+: s.values.toList

variable {caller s s' : Stack} {f : Frame}

theorem Above.depth_lt (h : Above caller f s) : caller.depth < s.depth := by
  obtain ⟨inner, g, hframes, -⟩ := h.frames
  unfold depth
  rw [hframes, List.length_append, List.length_cons]
  omega

/-- No value of the caller is above the floor. -/
theorem Above.le_floor (h : Above caller f s) : caller.values.size ≤ s.floor := by
  obtain ⟨inner, g, hframes, -, -, hbase, hinner⟩ := h.frames
  unfold floor
  rw [hframes]
  cases inner with
  | nil => exact Nat.le_of_eq hbase.symm
  | cons k rest => exact hinner k List.mem_cons_self

/-- A change of values above those of the caller. -/
theorem Above.withValues (h : Above caller f s) {values : Array UInt16}
    (hvalues : caller.values.toList <+: values.toList) : Above caller f { s with values } :=
  ⟨h.frames, hvalues⟩

/-- Whatever the running routine does to the values and its locals, it does above its floor. -/
theorem Above.change (h : Above caller f s) (hchange : Change s s') : Above caller f s' := by
  obtain ⟨own, hown⟩ := h.values
  have hfloor := h.le_floor
  have hsize : s.values.size = caller.values.size + own.length := by
    rw [← Array.length_toList, ← hown, List.length_append, Array.length_toList]
  cases hchange with
  | push value hroom =>
    refine h.withValues ⟨own ++ [value], ?_⟩
    rw [Array.toList_push, ← hown, List.append_assoc]
  | pop habove =>
    have hne : own ≠ [] := by
      rintro rfl
      rw [List.length_nil] at hsize
      omega
    refine h.withValues ⟨own.dropLast, ?_⟩
    rw [Array.toList_pop, ← hown, List.dropLast_append_of_ne_nil hne]
  | replaceTop value habove =>
    refine h.withValues ⟨own.set (s.values.size - 1 - caller.values.size) value, ?_⟩
    rw [Array.toList_setIfInBounds, ← hown, List.set_append_right]
    · rw [Array.length_toList]
    · rw [Array.length_toList]
      omega
  | @setLocal k rest index value hframes =>
    obtain ⟨inner, g, hsplit, hg, hstorer, hbase, hinner⟩ := h.frames
    refine ⟨?_, h.values⟩
    rw [hframes] at hsplit
    cases inner with
    | nil =>
      cases hsplit
      exact ⟨[], _, rfl, hg, hstorer, hbase, fun k hk => by cases hk⟩
    | cons k' later =>
      cases hsplit
      refine ⟨_ :: later, g, rfl, hg, hstorer, hbase, fun j hj => ?_⟩
      rcases List.mem_cons.1 hj with rfl | hrest
      · exact hinner k List.mem_cons_self
      · exact hinner j (List.mem_cons_of_mem _ hrest)

/-- A routine that is called is based on all values that are there. -/
theorem Above.enter (h : Above caller f s) {k : Frame} (hbase : k.stackBase = s.values.size) :
    Above caller f { s with frames := k :: s.frames } := by
  obtain ⟨inner, g, hframes, hg, hstorer, hgbase, hinner⟩ := h.frames
  refine ⟨⟨k :: inner, g, congrArg (k :: ·) hframes, hg, hstorer, hgbase, fun j hj => ?_⟩, h.values⟩
  rcases List.mem_cons.1 hj with rfl | hrest
  · have hsize := h.values.length_le
    rw [Array.length_toList, Array.length_toList] at hsize
    omega
  · exact hinner j hrest

/-- A routine that is left, but is not the callee. -/
theorem Above.leave (h : Above caller f s) (hleave : Leave s s') (hdepth : caller.depth < s'.depth) :
    Above caller f s' := by
  obtain ⟨inner, g, hsplit, hg, hstorer, hbase, hinner⟩ := h.frames
  cases hleave with
  | @frame k rest hframes =>
    rw [hframes] at hsplit
    cases inner with
    | nil =>
      cases hsplit
      exact absurd hdepth (Nat.lt_irrefl _)
    | cons k' later =>
      cases hsplit
      refine ⟨⟨later, g, rfl, hg, hstorer, hbase,
        fun j hj => hinner j (List.mem_cons_of_mem _ hj)⟩, ?_⟩
      have hcut : (s.values.shrink k.stackBase).toList = s.values.toList.take k.stackBase := by simp
      have hbelow : caller.values.toList.length ≤ k.stackBase := hinner k List.mem_cons_self
      exact hcut ▸ List.prefix_take_iff.2 ⟨h.values, hbelow⟩

/-- Routines that are left one after another, but not the callee. -/
theorem Above.leaves (h : Above caller f s) (hleaves : Relation.ReflTransGen Leave s s') :
    caller.depth < s'.depth → Above caller f s' := by
  have hdown {s s' : Stack} (h : Leave s s') : s'.depth < s.depth := by
    cases h with
    | frame hframes =>
      unfold depth
      rw [hframes]
      exact Nat.lt_succ_self _
  induction hleaves with
  | refl => exact fun _ => h
  | tail _ hleave ih =>
    intro hdepth
    have := hdown hleave
    exact (ih (by omega)).leave hleave hdepth

theorem popFrame_cons {rest : List Frame} (h : s.frames = f :: rest) :
    popFrame s = .ok f { values := s.values.shrink f.stackBase, frames := rest } := by
  unfold popFrame
  rw [h]

/-- As many routines can be left as are running. -/
theorem popFrames_run (count : Nat) :
    ∀ {s : Stack}, count ≤ s.depth →
      ∃ s', popFrames count s = .ok () s' ∧ s'.depth = s.depth - count := by
  induction count with
  | zero => exact fun {s} _ => ⟨s, rfl, rfl⟩
  | succ count ih =>
    intro s hcount
    obtain ⟨g, rest, hframes⟩ : ∃ g rest, s.frames = g :: rest :=
      List.exists_cons_of_length_pos (by unfold depth at hcount; omega)
    have hdepth : s.depth = rest.length + 1 := congrArg List.length hframes
    obtain ⟨s', hrest, hleft⟩ :=
      ih (s := ⟨s.values.shrink g.stackBase, rest⟩) (by unfold depth; dsimp only; omega)
    refine ⟨s', ?_, ?_⟩
    · unfold popFrames
      rw [bind_ok (popFrame_cons hframes)]
      exact hrest
    · unfold depth at hleft hdepth ⊢
      dsimp only at hleft
      omega

/-- When the callee itself is left the stack is that of the caller. -/
theorem Above.popFrame (h : Above caller f s) (hdepth : s.depth = caller.depth + 1) :
    ∃ g : Frame, g.returnPc = f.returnPc ∧ g.storer = f.storer ∧ Stack.popFrame s = .ok g caller := by
  obtain ⟨inner, g, hframes, hg, hstorer, hbase, -⟩ := h.frames
  refine ⟨g, hg, hstorer, ?_⟩
  have hinner : inner = [] := by
    unfold depth at hdepth
    rw [hframes, List.length_append, List.length_cons] at hdepth
    exact List.eq_nil_of_length_eq_zero (by omega)
  subst hinner
  have hcut : s.values.shrink g.stackBase = caller.values := by
    refine Array.toList_inj.1 ?_
    have htake : (s.values.shrink g.stackBase).toList = s.values.toList.take g.stackBase := by simp
    rw [htake, hbase, ← Array.length_toList]
    exact (List.prefix_iff_eq_take.1 h.values).symm
  have hpop := popFrame_cons hframes
  rw [hcut] at hpop
  exact hpop

end Stack

namespace Context

/-! ## Instructions of the callee -/

/-- How many routines are running. -/
def depth (c : Context) : Nat :=
  c.machine.stack.depth

section
variable {caller : Stack} {f : Frame}

/-- The callee is running, in a context. -/
def Above (caller : Stack) (f : Frame) (c : Context) : Prop :=
  Stack.Above caller f c.machine.stack

theorem Change.above {c c' : Context} (h : Change c c') (hc : Above caller f c) :
    Above caller f c' := by
  cases h with
  | machine hs =>
    cases hs with
    | stack ht => exact Stack.Above.change hc ht
    | memory | random | streams => exact hc
  | window | entropy | journal => exact hc

theorem Change.depth_eq {c c' : Context} (h : Change c c') : c'.depth = c.depth := by
  cases h with
  | machine hs =>
    cases hs with
    | stack ht =>
      cases ht with
      | @setLocal g rest index value hframes =>
        show rest.length + 1 = c.machine.stack.frames.length
        rw [hframes]
        rfl
      | push | pop | replaceTop => rfl
    | memory | random | streams => rfl
  | window | entropy | journal => rfl

/-- While an action leaves the callee running the caller is out of reach; and if it leaves the callee,
it does so by a return, which then stores its value in the context of the caller. -/
def Isolates (caller : Stack) (f : Frame) (x : Exec Unit) : Prop :=
  ∀ c, Above caller f c →
    (caller.depth < (endState (x c)).depth → Above caller f (endState (x c))) ∧
      ((endState (x c)).depth = caller.depth → ∃ v c', x c = ret v c' ∧
        x c = store f.storer v
          { c' with machine := { c'.machine with pc := f.returnPc, stack := caller } })

/-- Actions that do not leave the callee. -/
theorem isolates_of_leads {x : Exec Unit}
    (hx : Leads (fun c c' => Above caller f c → Above caller f c') x) : Isolates caller f x := by
  intro c hc
  have hend := hx c hc
  refine ⟨fun _ => hend, fun hdepth => ?_⟩
  exact absurd hdepth (Nat.ne_of_gt hend.depth_lt)

theorem leads_of_makes {α : Type} {x : Exec α} (hx : Makes Change x) :
    Leads (fun c c' => Above caller f c → Above caller f c') x :=
  fun _ hc => hx.preserves (fun _ _ h => h.above) hc

theorem jump_leads (address : UInt32) :
    Leads (fun c c' => Above caller f c → Above caller f c') (jump address) :=
  fun _ => id

theorem call_isolates (packed : UInt16) (arguments : List UInt16) (storer : Option Variable) :
    Isolates caller f (call packed arguments storer) := by
  refine isolates_of_leads ?_
  unfold call
  refine leads_ite (fun _ => leads_of_makes (store_makes storer 0)) (fun _ => ?_)
  refine leads_get_bind (fun c => ?_)
  dsimp only
  cases hcount : c.machine.memory.read8 (c.machine.header.unpack packed) with
  | error e => exact id
  | ok count =>
    intro hc
    show Above caller f (endState ((if Stack.maxLocals < count.toNat then _ else _ : Exec Unit) c))
    by_cases hmany : Stack.maxLocals < count.toNat
    · rw [if_pos hmany]
      exact hc
    · rw [if_neg hmany]
      refine leads_bind_at (R := fun c c' => Above caller f c → Above caller f c') (fun hc => ?_)
        (fun _ => jump_leads _) hc
      rw [endState_onMachine, Machine.endState_onStack]
      unfold Stack.pushFrame
      split
      · exact Stack.Above.enter hc rfl
      · exact hc

theorem ret_run {c : Context} {g : Frame} {s : Stack}
    (h : Stack.popFrame c.machine.stack = .ok g s) (value : UInt16) :
    ret value c = store g.storer value
      { c with machine := { c.machine with pc := g.returnPc, stack := s } } := by
  have hpop : onMachine (Machine.onStack Stack.popFrame) c =
      .ok g { c with machine := { c.machine with stack := s } } := by
    rw [onMachine_run, Machine.onStack_run, h]
  unfold ret
  rw [bind_ok hpop]
  rfl

theorem store_keeps_depth (storer : Option Variable) (value : UInt16) :
    Keeps depth (store storer value) :=
  (store_makes storer value).keeps (fun _ _ h => h.depth_eq)

/-- A return leaves one routine. -/
theorem ret_depth (value : UInt16) (c : Context) : (endState (ret value c)).depth = c.depth - 1 := by
  unfold depth Stack.depth
  cases hframes : c.machine.stack.frames with
  | nil =>
    have hpop : onMachine (Machine.onStack Stack.popFrame) c = .error .noFrame c := by
      rw [onMachine_run, Machine.onStack_run]
      unfold Stack.popFrame
      rw [hframes]
    unfold ret
    rw [bind_error hpop, endState_error, hframes]
    rfl
  | cons g rest =>
    rw [ret_run (Stack.popFrame_cons hframes)]
    exact store_keeps_depth g.storer value _

theorem ret_isolates (value : UInt16) : Isolates caller f (ret value) := by
  intro c hc
  have hdepth : caller.depth < c.depth := hc.depth_lt
  have hleft := ret_depth value c
  by_cases hcallee : c.depth = caller.depth + 1
  · obtain ⟨g, hpc, hstorer, hpop⟩ := Stack.Above.popFrame hc hcallee
    refine ⟨fun hrunning => by omega, fun _ => ⟨value, c, rfl, ?_⟩⟩
    rw [ret_run hpop, hpc, hstorer]
  · refine ⟨fun _ => ?_, fun hlast => by omega⟩
    obtain ⟨g, rest, hframes⟩ : ∃ g rest, c.machine.stack.frames = g :: rest :=
      List.exists_cons_of_length_pos (by unfold depth Stack.depth at hdepth; omega)
    rw [ret_run (Stack.popFrame_cons hframes)]
    refine leads_of_makes (store_makes g.storer value) _ (Stack.Above.leave hc (.frame hframes) ?_)
    unfold depth Stack.depth at hdepth hcallee
    rw [hframes, List.length_cons] at hdepth hcallee
    show caller.depth < rest.length
    unfold Stack.depth
    omega

theorem throwTo_isolates (value cookie : UInt16) : Isolates caller f (throwTo value cookie) := by
  intro c hc
  unfold throwTo
  rw [get_bind]
  dsimp only
  by_cases hstale : cookie = 0 ∨ c.machine.stack.depth < cookie.toNat
  · rw [if_pos hstale]
    exact isolates_of_leads (fun _ => id) c hc
  · rw [if_neg hstale]
    have hcookie : cookie ≠ 0 := fun h => hstale (.inl h)
    have hpos : 0 < cookie.toNat := Nat.pos_of_ne_zero fun h => hcookie (UInt16.toNat_inj.1 h)
    have hle : cookie.toNat ≤ c.machine.stack.depth := Nat.not_lt.1 fun h => hstale (.inr h)
    obtain ⟨s, hpop, hdepth⟩ :=
      Stack.popFrames_run (c.machine.stack.depth - cookie.toNat) (s := c.machine.stack) (by omega)
    have hleave : onMachine (Machine.onStack (Stack.popFrames
        (c.machine.stack.depth - cookie.toNat))) c =
        .ok () { c with machine := { c.machine with stack := s } } := by
      rw [onMachine_run, Machine.onStack_run, hpop]
    rw [bind_ok hleave]
    have hleft := ret_depth value { c with machine := { c.machine with stack := s } }
    by_cases hcallee : caller.depth < s.depth
    · have habove := Stack.Above.leaves hc ((Stack.popFrames_makes _).of_ok hpop) hcallee
      exact ret_isolates value { c with machine := { c.machine with stack := s } } habove
    -- the throw goes past the callee, so the depth of its caller is not where it ends
    · have hpast : s.depth - 1 < caller.depth := by omega
      have hend : (endState (ret value { c with machine := { c.machine with stack := s } })).depth <
          caller.depth := hleft ▸ hpast
      exact ⟨fun h => absurd h (by omega), fun h => absurd h (by omega)⟩

end

end Context

/-- No instruction but going back to a checkpoint gets at the caller. -/
theorem Instruction.proceed_isolates {caller : Stack} {f : Frame} (config : Config) {i : Instruction}
    (h : i.opcode ≠ .restoreUndo) : Context.Isolates caller f (i.proceed config) := by
  intro c hc
  obtain ⟨c', y, hchanges, hy, hend⟩ := i.step_ends config { c with machine.pc := i.next }
  have habove : Context.Above caller f c' := by
    clear hy hend
    induction hchanges with
    | refl => exact hc
    | tail _ hchange ih => exact hchange.above ih
  rw [Instruction.proceed_run, hend]
  have hy : Context.Isolates caller f y := by
    cases hy with
    | stay => exact Context.isolates_of_leads (fun _ => id)
    | fault e => exact Context.isolates_of_leads (fun _ => id)
    | jump address => exact Context.isolates_of_leads (Context.jump_leads address)
    | request => exact Context.isolates_of_leads (fun _ => id)
    | call packed arguments => exact Context.call_isolates packed arguments i.store
    | ret value => exact Context.ret_isolates value
    | throwTo value cookie => exact Context.throwTo_isolates value cookie
    | saveUndo =>
      exact Context.isolates_of_leads (leads_bind (leads_modify (fun _ => id))
        (fun _ => Context.leads_of_makes (Context.store_makes i.store 1)))
    | restoreUndo hop => exact absurd hop h
  exact hy c' habove

namespace Context

/-! ## From a call to the return -/

/-- What happens between a call and its return: an instruction that does not go back to a checkpoint
is executed, or the host stores something. -/
inductive Moves : Context → Context → Prop
  | instruction (config : Config) {i : Instruction} (h : i.opcode ≠ .restoreUndo) (c : Context) :
      Moves c (endState (i.proceed config c))
  | input {c : Context} {s : Machine} (h : c.machine.Change s) : Moves c { c with machine := s }

/-- Moves after each of which more than `depth` routines are running. -/
def Inside (depth : Nat) : Context → Context → Prop :=
  Relation.ReflTransGen fun c c' => Moves c c' ∧ depth < c'.depth

/-- A call that enters a routine puts its frame on top. -/
theorem call_eq_ok {packed : UInt16} {arguments : List UInt16} {storer : Option Variable}
    {c c' : Context} (hpacked : packed ≠ 0) (h : call packed arguments storer c = .ok () c') :
    ∃ f : Frame, f.returnPc = c.machine.pc ∧ f.storer = storer ∧
      f.stackBase = c.machine.stack.values.size ∧
      c'.machine.stack = { c.machine.stack with frames := f :: c.machine.stack.frames } := by
  unfold call at h
  rw [if_neg hpacked, get_bind] at h
  dsimp only at h
  obtain ⟨count, c₁, hcount, h⟩ := bind_eq_ok h
  have hsame : c₁ = c := by
    cases hread : c.machine.memory.read8 (c.machine.header.unpack packed) with
    | error e =>
      rw [hread] at hcount
      cases hcount
    | ok n =>
      rw [hread] at hcount
      cases hcount
      rfl
  subst hsame
  by_cases hmany : Stack.maxLocals < count.toNat
  · rw [if_pos hmany] at h
    cases h
  · rw [if_neg hmany] at h
    obtain ⟨_, c₂, hpush, hjump⟩ := bind_eq_ok h
    cases hjump
    rw [onMachine_run, Machine.onStack_run] at hpush
    unfold Stack.pushFrame at hpush
    by_cases hroom : c₁.machine.stack.frames.length < Stack.maxFrames
    · rw [if_pos hroom] at hpush
      cases hpush
      exact ⟨_, rfl, rfl, rfl, rfl⟩
    · rw [if_neg hroom] at hpush
      cases hpush

theorem Inside.above {caller : Stack} {f : Frame} {c c' : Context} (h : Inside caller.depth c c')
    (hc : Above caller f c) : Above caller f c' := by
  induction h with
  | refl => exact hc
  | tail _ hstep ih =>
    obtain ⟨hmoves, hdepth⟩ := hstep
    cases hmoves with
    | instruction config hopcode =>
      exact (Instruction.proceed_isolates config hopcode _ ih).1 hdepth
    | input hs => exact (Change.machine hs).above ih

/-- A callee cannot get at its caller.  From a call on, as long as more routines are running than
before it, the frames and the values that were there stay at the bottom of the stack.  And the
instruction that brings their number back returns a value: it goes on at the address after the call
with just the stack of the caller, where it stores the value as the call asks for. -/
theorem callee_isolated {packed : UInt16} {arguments : List UInt16} {storer : Option Variable}
    {c₀ c₁ c : Context} (hpacked : packed ≠ 0) (hcall : call packed arguments storer c₀ = .ok () c₁)
    (hinside : Inside c₀.depth c₁ c) :
    (∃ inner, inner ≠ [] ∧ c.machine.stack.frames = inner ++ c₀.machine.stack.frames) ∧
      c₀.machine.stack.values.toList <+: c.machine.stack.values.toList ∧
      ∀ (config : Config) (i : Instruction), i.opcode ≠ .restoreUndo →
        (endState (i.proceed config c)).depth = c₀.depth →
        ∃ value c', i.proceed config c = ret value c' ∧
          i.proceed config c = store storer value
            { c' with machine :=
              { c'.machine with pc := c₀.machine.pc, stack := c₀.machine.stack } } := by
  obtain ⟨f, hpc, hstorer, hbase, hstack⟩ := call_eq_ok hpacked hcall
  have hentered : Above c₀.machine.stack f c₁ := by
    unfold Above
    rw [hstack]
    exact ⟨⟨[], f, rfl, rfl, rfl, hbase, fun g hg => by cases hg⟩, List.prefix_refl _⟩
  have habove := hinside.above hentered
  refine ⟨?_, habove.values, fun config i hopcode hdepth => ?_⟩
  · obtain ⟨inner, g, hframes, -⟩ := habove.frames
    exact ⟨inner ++ [g], by simp, by rw [hframes, List.append_assoc]; rfl⟩
  · rw [← hpc, ← hstorer]
    exact (Instruction.proceed_isolates config hopcode c habove).2 hdepth

namespace PushAndReturn

/-- A context with a value on the stack, going on at 9. -/
def caller : Context :=
  { Block.TwoInstructions.context with
    machine := { Block.TwoInstructions.context.machine with pc := 9, stack := { values := #[5] } } }

/-- The routine at the packed address 1, which has seven locals. -/
def entered : Context :=
  { caller with
    machine := { caller.machine with
      pc := 5
      stack := ⟨#[5], [⟨9, some .stack, [3, 0, 0, 0, 0, 0, 0], 1, 1⟩]⟩ } }

def push : Instruction :=
  ⟨5, 7, .push, [.const 8], none, none, none⟩

def ret : Instruction :=
  ⟨7, 9, .ret, [.const 2], none, none, none⟩

end PushAndReturn

open PushAndReturn in
/-- A routine that pushes 8 and returns 2 leaves just the 2 on top of its caller's value. -/
theorem callee_isolated_push :
    ∃ c value c', call 1 [3] (some .stack) caller = .ok () entered ∧ Inside caller.depth entered c ∧
      c.machine.stack.values = #[5, 8] ∧ PushAndReturn.ret.proceed {} c = Context.ret value c' ∧
      PushAndReturn.ret.proceed {} c = store (some .stack) value
        { c' with machine := { c'.machine with pc := 9, stack := { values := #[5] } } } ∧
      (endState (PushAndReturn.ret.proceed {} c)).machine.stack = { values := #[5, 2] } := by
  have hcall : call 1 [3] (some .stack) caller = .ok () entered := by rfl
  have hinside : Inside caller.depth entered (endState (push.proceed {} entered)) :=
    .single ⟨.instruction {} (by decide) entered, by decide⟩
  have hdepth : (endState (PushAndReturn.ret.proceed {} (endState (push.proceed {} entered)))).depth =
      caller.depth := by
    decide
  obtain ⟨-, -, hret⟩ := callee_isolated (by decide) hcall hinside
  obtain ⟨value, c', hvalue, hstore⟩ := hret {} PushAndReturn.ret (by decide) hdepth
  exact ⟨_, value, c', hcall, hinside, by decide, hvalue, hstore, by decide⟩

end Context
end ZMachine
