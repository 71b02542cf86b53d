import ZMachine.Proofs.Arithmetic
import ZMachine.Proofs.Execution.Setting
import ZMachine.Proofs.Header

/-!
# Arithmetic of the operations

An operation on two words comes to an integer, and stores it modulo 65536.  The integer is told by
`integer?`: the sum, difference or product of the signed operands, their quotient rounded toward
zero and its remainder, or `⌊a · 2ⁿ⌋`.  A division by zero is a fault and stores nothing.

    step of i    =  store (ofInt r)       integer? of its operands is r, and no shift overshoots
    step of i    =  store 0xFFFF          an arithmetic shift that overshoots

An operation on a variable that it names steps its value by one and goes on from the new value.  The
value is where `Has` finds it, and is replaced there: the top of the stack is not taken off.

    Has s v x   →   step of i  =  whenStepped (x ± 1) in the machine  replace s v (x ± 1)
-/

namespace ZMachine

/-! ## Variables named by an operation -/

namespace Stack

theorem peek_of_back? {s : Stack} {x : UInt16} (hfloor : s.floor < s.values.size)
    (h : s.values.back? = some x) : peek s = .ok x s := by
  unfold peek
  rw [if_neg (Nat.not_le.2 hfloor), h]

theorem replaceTop_of_lt {s : Stack} (hfloor : s.floor < s.values.size) (w : UInt16) :
    replaceTop w s = .ok () { s with values := s.values.pop.push w } := by
  have hlast : s.values.setIfInBounds (s.values.size - 1) w = s.values.pop.push w := by
    apply Array.ext_getElem?
    intro i
    rw [Array.getElem?_setIfInBounds, Array.getElem?_push, Array.size_pop, Array.getElem?_pop]
    by_cases hi : s.values.size - 1 = i
    · rw [if_pos hi, if_pos hi.symm, if_pos (by omega)]
    · rw [if_neg hi, if_neg (Ne.symm hi)]
      split
      · rfl
      · rw [Array.getElem?_eq_none (by omega)]
  unfold replaceTop
  rw [if_neg (Nat.not_le.2 hfloor), hlast]

theorem getLocal_of_cons {s : Stack} {f : Frame} {callers : List Frame} {index : UInt8} {x : UInt16}
    (hframes : s.frames = f :: callers) (h : f.locals[index.toNat]? = some x) :
    getLocal index s = .ok x s := by
  unfold getLocal
  rw [hframes]
  dsimp only
  rw [h]

theorem setLocal_of_cons {s : Stack} {f : Frame} {callers : List Frame} {index : UInt8}
    (hframes : s.frames = f :: callers) (h : index.toNat < f.locals.length) (w : UInt16) :
    setLocal index w s =
      .ok () { s with frames := { f with locals := f.locals.set index.toNat w } :: callers } := by
  unfold setLocal
  rw [hframes]
  dsimp only
  rw [if_pos h]

end Stack

namespace Machine

/-- Where a machine has a value of a variable: on top of the values of the running routine, in its
frame, or in the memory. -/
inductive Has (s : Machine) (v : Variable) (x : UInt16) : Prop
  | onTop (hv : v.number = 0) (hfloor : s.stack.floor < s.stack.values.size)
      (htop : s.stack.values.back? = some x)
  | inFrame {f : Frame} {callers : List Frame} (hv : v.number ≠ 0) (hv' : v.number < 16)
      (hframes : s.stack.frames = f :: callers)
      (hlocal : f.locals[(v.number - 1).toNat]? = some x)
  | inGlobal (hv : ¬ v.number < 16) (hcell : s.memory.read16 (globalAddress s.header v) = .ok x)

/-- The machine with the value of a variable replaced, the top of the stack for variable 0. -/
def replace (s : Machine) (v : Variable) (w : UInt16) : Machine :=
  if v.number = 0 then { s with stack.values := s.stack.values.pop.push w }
  else if v.number < 16 then
    { s with stack.frames := s.stack.frames.modifyHead fun f =>
        { f with locals := f.locals.set (v.number - 1).toNat w } }
  else { s with memory := s.memory.setBytes (globalAddress s.header v) (wordBytes w) }

variable {s : Machine} {v : Variable} {x : UInt16}

/-- A value that is read by the number of its variable stays where it is. -/
theorem Has.readIndirect_eq (h : s.Has v x) : readIndirect v s = .ok x s := by
  unfold readIndirect readVar
  cases h with
  | onTop hv hfloor htop =>
    rw [if_pos hv, onStack_run, Stack.peek_of_back? hfloor htop]
  | inFrame hv hv' hframes hlocal =>
    rw [if_neg hv, if_neg hv, if_pos hv', onStack_run, Stack.getLocal_of_cons hframes hlocal]
  | inGlobal hv hcell =>
    have hne : v.number ≠ 0 := fun h0 => hv (h0 ▸ by decide)
    rw [if_neg hne, if_neg hne, if_neg hv]
    show (liftM (liftM (s.memory.read16 _) : Except Fault UInt16) : MachineM UInt16) s = _
    rw [hcell]
    rfl

theorem Has.writeIndirect_eq (h : s.Has v x) (w : UInt16) :
    writeIndirect v w s = .ok () (s.replace v w) := by
  unfold writeIndirect writeVar replace
  cases h with
  | onTop hv hfloor htop =>
    rw [if_pos hv, if_pos hv, onStack_run, Stack.replaceTop_of_lt hfloor]
  | inFrame hv hv' hframes hlocal =>
    rw [if_neg hv, if_neg hv, if_pos hv', if_neg hv, if_pos hv', onStack_run,
      Stack.setLocal_of_cons hframes (List.getElem?_eq_some_iff.1 hlocal).1, hframes]
    rfl
  | inGlobal hv hcell =>
    have hne : v.number ≠ 0 := fun h0 => hv (h0 ▸ by decide)
    rw [if_neg hne, if_neg hne, if_neg hv, if_neg hne, if_neg hv, get_bind, onMemory_run,
      Memory.write16_of_lt (Memory.lt_size_of_read16 hcell)]

/-- After that it has the new value. -/
theorem Has.replace (h : s.Has v x) (w : UInt16) : (s.replace v w).Has v w := by
  unfold Machine.replace
  cases h with
  | onTop hv hfloor htop =>
    rw [if_pos hv]
    refine .onTop hv ?_ ?_
    · show s.stack.floor < (s.stack.values.pop.push w).size
      rw [Array.size_push, Array.size_pop]
      omega
    · exact Array.back?_push
  | inFrame hv hv' hframes hlocal =>
    rw [if_neg hv, if_pos hv', hframes]
    refine .inFrame hv hv' rfl ?_
    dsimp only
    rw [List.getElem?_set_self (List.getElem?_eq_some_iff.1 hlocal).1]
  | inGlobal hv hcell =>
    have hne : v.number ≠ 0 := fun h0 => hv (h0 ▸ by decide)
    rw [if_neg hne, if_neg hv]
    exact .inGlobal hv (Memory.read16_setBytes_self _ _ _ (Memory.lt_size_of_read16 hcell))

/-- A variable has a value, or reading it is a fault that changes nothing. -/
theorem has_or_readIndirect_eq_error (s : Machine) (v : Variable) :
    (∃ x, s.Has v x) ∨ ∃ e, readIndirect v s = .error e s := by
  unfold readIndirect readVar
  by_cases hstack : v.number = 0
  · rw [if_pos hstack, onStack_run, Stack.peek]
    by_cases hfloor : s.stack.values.size ≤ s.stack.floor
    · rw [if_pos hfloor]
      exact .inr ⟨_, rfl⟩
    · have hfloor := Nat.lt_of_not_le hfloor
      exact .inl ⟨_, .onTop hstack hfloor (Array.back?_eq_getElem?.trans
        (Array.getElem?_eq_getElem (show s.stack.values.size - 1 < s.stack.values.size by omega)))⟩
  rw [if_neg hstack, if_neg hstack]
  by_cases hlocal : v.number < 16
  · rw [if_pos hlocal, onStack_run, Stack.getLocal]
    cases hframes : s.stack.frames with
    | nil => exact .inr ⟨_, rfl⟩
    | cons f callers =>
      cases hvalue : f.locals[(v.number - 1).toNat]? with
      | some x => exact .inl ⟨x, .inFrame hstack hlocal hframes hvalue⟩
      | none =>
        dsimp only
        rw [hvalue]
        exact .inr ⟨_, rfl⟩
  · rw [if_neg hlocal]
    cases hcell : s.memory.read16 (globalAddress s.header v) with
    | ok x => exact .inl ⟨x, .inGlobal hlocal hcell⟩
    | error e =>
      refine .inr ⟨.outOfRange e, ?_⟩
      show (liftM (liftM (s.memory.read16 _) : Except Fault UInt16) : MachineM UInt16) s = _
      rw [hcell]
      rfl

end Machine

open Context Arithmetic

/-! ## What the operations come to -/

namespace Opcode

/-- The integer that an arithmetic operation comes to. -/
def integer? (a b : UInt16) : Opcode → Option Int
  | .add => some (signed a + signed b)
  | .sub => some (signed a - signed b)
  | .mul => some (signed a * signed b)
  | .div => if b = 0 then none else some ((signed a).tdiv (signed b))
  | .mod => if b = 0 then none else some ((signed a).tmod (signed b))
  | .logShift => some (scaled a.toNat (signed b))
  | .artShift => some (scaled (signed a) (signed b))
  | _ => none

/-- The word that such an operation stores for the integer. -/
def stored (a b : UInt16) (r : Int) (opcode : Opcode) : UInt16 :=
  if opcode = .artShift ∧ Overshoots a b then 0xFFFF else .ofInt r

/-- By how much an operation steps the variable that it names. -/
def stride? : Opcode → Option Int
  | .inc | .incChk => some 1
  | .dec | .decChk => some (-1)
  | _ => none

/-- What an operation asks about a variable that it has stepped to a value. -/
def check? (value b : UInt16) : Opcode → Option Bool
  | .incChk => some (signed b < signed value)
  | .decChk => some (signed value < signed b)
  | _ => none

end Opcode

namespace Instruction

variable {config : Config} {i : Instruction} {c c' : Context} {ops : List UInt16}

/-- Stepping a variable that has a value replaces it. -/
theorem stepVariable_of_has {number delta x : UInt16} (h : c.machine.Has ⟨lowByte number⟩ x) :
    stepVariable number delta c =
      .ok (x + delta) { c with machine := c.machine.replace ⟨lowByte number⟩ (x + delta) } := by
  have hread : onMachine (Machine.readIndirect ⟨lowByte number⟩) c = .ok x c := by
    rw [onMachine_run, h.readIndirect_eq]
  have hwrite : onMachine (Machine.writeIndirect ⟨lowByte number⟩ (x + delta)) c =
      .ok () { c with machine := c.machine.replace ⟨lowByte number⟩ (x + delta) } := by
    rw [onMachine_run, h.writeIndirect_eq]
  unfold stepVariable
  rw [bind_ok hread, bind_ok hwrite]
  rfl

theorem stepVariable_of_not_has {number : UInt16} (h : ∀ x, ¬ c.machine.Has ⟨lowByte number⟩ x)
    (delta : UInt16) : ∃ e, stepVariable number delta c = .error e c := by
  obtain ⟨x, hx⟩ | ⟨e, he⟩ := c.machine.has_or_readIndirect_eq_error ⟨lowByte number⟩
  · exact absurd hx (h x)
  · have hread : onMachine (Machine.readIndirect ⟨lowByte number⟩) c = .error e c := by
      rw [onMachine_run, he]
    unfold stepVariable
    exact ⟨e, bind_error hread⟩

theorem need_of_le {n : Nat} (h : n ≤ ops.length) : i.need ops n c = .ok () c :=
  congrFun (if_neg (Nat.not_lt.2 h)) c

/-- What an arithmetic operation stores. -/
theorem perform_integer (config : Config) {r : Int}
    (hr : i.opcode.integer? (ops.getD 0 0) (ops.getD 1 0) = some r)
    (hpair : i.opcode = .div ∨ i.opcode = .mod → 2 ≤ ops.length) (c : Context) :
    i.perform config ops c =
      Context.store i.store (i.opcode.stored (ops.getD 0 0) (ops.getD 1 0) r) c := by
  generalize ha : ops.getD 0 0 = a at hr ⊢
  generalize hb : ops.getD 1 0 = b at hr ⊢
  unfold perform
  rw [ha, hb]
  cases hop : i.opcode with
  | add =>
    rw [hop] at hr
    cases hr
    show Context.store i.store (a + b) c = Context.store i.store (.ofInt (signed a + signed b)) c
    rw [UInt16.ofInt_add, ofInt_signed, ofInt_signed]
  | sub =>
    rw [hop] at hr
    cases hr
    show Context.store i.store (a - b) c = Context.store i.store (.ofInt (signed a - signed b)) c
    rw [ofInt_sub, ofInt_signed, ofInt_signed]
  | mul =>
    rw [hop] at hr
    cases hr
    show Context.store i.store (a * b) c = Context.store i.store (.ofInt (signed a * signed b)) c
    rw [UInt16.ofInt_mul, ofInt_signed, ofInt_signed]
  | div | mod =>
    rw [hop] at hr hpair
    have hzero : b ≠ 0 := by
      rintro rfl
      cases hr
    obtain rfl := Option.some.inj ((if_neg hzero).symm.trans hr)
    dsimp only
    rw [bind_ok (need_of_le (hpair (by decide))), if_neg hzero]
    rfl
  | logShift =>
    rw [hop] at hr
    cases hr
    exact congrArg (Context.store i.store · c) (shift_eq false a b (fun h => by cases h))
  | artShift =>
    rw [hop] at hr
    cases hr
    refine congrArg (Context.store i.store · c) ?_
    unfold Opcode.stored
    by_cases hover : Overshoots a b
    · rw [if_pos ⟨rfl, hover⟩, shift_of_overshoots hover]
    · rw [if_neg (fun h => hover h.2), shift_eq true a b (fun _ => hover)]
      rfl
  | _ =>
    rw [hop] at hr
    cases hr

/-- A division by zero stores nothing. -/
theorem perform_divisionByZero (config : Config) (hop : i.opcode = .div ∨ i.opcode = .mod)
    (hpair : 2 ≤ ops.length) (hzero : ops.getD 1 0 = 0) (c : Context) :
    i.perform config ops c = .error (.divisionByZero i.address) c := by
  unfold perform
  rw [hzero]
  obtain hop | hop := hop <;>
  · rw [hop]
    dsimp only
    rw [bind_ok (need_of_le hpair), if_pos rfl]
    rfl

/-- What comes after a variable was stepped to a value. -/
def whenStepped (i : Instruction) (value b : UInt16) : Exec Unit :=
  match i.opcode.check? value b with
  | some holds => i.branchIf holds
  | none => return

/-- An operation that steps a variable does so before anything else. -/
theorem perform_stride (config : Config) {delta : Int} (hstride : i.opcode.stride? = some delta) :
    i.perform config ops = (do
      let value ← stepVariable (ops.getD 0 0) (.ofInt delta)
      i.whenStepped value (ops.getD 1 0)) := by
  unfold perform whenStepped
  cases hop : i.opcode with
  | inc | dec | incChk | decChk =>
    rw [hop] at hstride
    cases hstride
    rfl
  | _ =>
    rw [hop] at hstride
    cases hstride

theorem isAboutNothing_of_integer {r : Int} {a b : UInt16} (h : i.opcode.integer? a b = some r) :
    isAboutNothing i.opcode ops = false := by
  cases hop : i.opcode with
  | add | sub | mul | div | mod | logShift | artShift => rfl
  | _ =>
    rw [hop] at h
    cases h

theorem isAboutNothing_of_stride {delta : Int} (h : i.opcode.stride? = some delta) :
    isAboutNothing i.opcode ops = false := by
  cases hop : i.opcode with
  | inc | dec | incChk | decChk => rfl
  | _ =>
    rw [hop] at h
    cases h

theorem stored_eq_iff (opcode : Opcode) {a b : UInt16} {r : Int}
    (h : opcode.integer? a b = some r) :
    opcode.stored a b r = .ofInt r ↔ ¬ (opcode = .artShift ∧ Overshoots a b) := by
  unfold Opcode.stored
  by_cases hover : opcode = .artShift ∧ Overshoots a b
  · obtain ⟨rfl, hover'⟩ := hover
    cases h
    rw [if_pos ⟨rfl, hover'⟩, ofInt_scaled_of_le _ hover'.2]
    exact ⟨fun h => absurd h (by decide), fun h => absurd ⟨rfl, hover'⟩ h⟩
  · rw [if_neg hover]
    exact ⟨fun _ => hover, fun _ => rfl⟩

/-! ## The instructions -/

/-- An instruction whose operands have the values `a` and `b` stores the integer that its operation
comes to, modulo 65536; only an arithmetic shift that overshoots stores another word.  A division by
zero stores nothing.  An instruction that steps a variable by its number replaces the variable's
value by the next one, modulo 65536, and goes on with what it asks about that value; where there is
no value, nothing changes. -/
theorem step_arithmetic (config : Config) (i : Instruction) (c c' : Context) (ops : List UInt16)
    (a b : UInt16) (hops : operandValues i.operands c = .ok ops c') (ha : ops.getD 0 0 = a)
    (hb : ops.getD 1 0 = b) (hpair : i.opcode = .div ∨ i.opcode = .mod → 2 ≤ ops.length) :
    (∀ r, i.opcode.integer? a b = some r →
        i.step config c = Context.store i.store (i.opcode.stored a b r) c' ∧
          (i.opcode.stored a b r = .ofInt r ↔ ¬ (i.opcode = .artShift ∧ Overshoots a b))) ∧
      (i.opcode = .div ∨ i.opcode = .mod → b = 0 →
        i.step config c = .error (.divisionByZero i.address) c') ∧
      ∀ delta, i.opcode.stride? = some delta →
        (∀ x, c'.machine.Has ⟨lowByte a⟩ x →
          let value : UInt16 := .ofInt (signed x + delta)
          let s := c'.machine.replace ⟨lowByte a⟩ value
          s.Has ⟨lowByte a⟩ value ∧
            i.step config c = i.whenStepped value b { c' with machine := s }) ∧
        ((∀ x, ¬ c'.machine.Has ⟨lowByte a⟩ x) → ∃ e, i.step config c = .error e c') := by
  subst ha hb
  refine ⟨fun r hr => ⟨?_, stored_eq_iff i.opcode hr⟩, fun hop hzero => ?_, fun delta hstride => ?_⟩
  · rw [step_eq_perform hops (isAboutNothing_of_integer hr), perform_integer config hr hpair]
  · have habout : isAboutNothing i.opcode ops = false := by
      obtain hop | hop := hop <;> rw [hop] <;> rfl
    rw [step_eq_perform hops habout, perform_divisionByZero config hop (hpair hop) hzero]
  · rw [step_eq_perform hops (isAboutNothing_of_stride hstride), perform_stride config hstride]
    refine ⟨fun x hx => ?_, fun hnone => ?_⟩
    · have hvalue : UInt16.ofInt (signed x + delta) = x + .ofInt delta := by
        rw [UInt16.ofInt_add, ofInt_signed]
      dsimp only
      rw [hvalue, bind_ok (stepVariable_of_has hx)]
      exact ⟨hx.replace _, rfl⟩
    · obtain ⟨e, he⟩ := stepVariable_of_not_has hnone (.ofInt delta)
      exact ⟨e, bind_error he⟩

namespace Reckoning

/-- Two values on the stack, 0x8000 on top. -/
def context : Context where
  machine := {
    memory := .ofList []
    header := default
    pc := 0
    stack := { values := #[3, 0x8000] }
    story := .ofList [] }
  undo := .ofDepth 1

/-- The smallest number divided by -1, onto the stack. -/
def divide : Instruction :=
  ⟨0, 5, .div, [.const 0x8000, .const 0xFFFF], some .stack, none, none⟩

/-- Steps the top of the stack back and returns 1 if that makes it less than 0. -/
def countBack : Instruction :=
  ⟨0, 5, .decChk, [.const 0, .const 0], none, some ⟨true, .returnTrue⟩, none⟩

/-- Shifts -1 by sixteen places to the left, onto the stack. -/
def shiftOut : Instruction :=
  ⟨0, 5, .artShift, [.const 0xFFFF, .const 16], some .stack, none, none⟩

end Reckoning

open Reckoning in
/-- The quotient 32768 is stored as 0x8000; and -32768 on top of the stack becomes 32767, which is
not less than 0. -/
theorem step_arithmetic_wrapping :
    operandValues divide.operands context = .ok [0x8000, 0xFFFF] context ∧
      divide.step {} context = Context.store (some .stack) 0x8000 context ∧
      operandValues countBack.operands context = .ok [0, 0] context ∧
      context.machine.Has .stack 0x8000 ∧
      countBack.step {} context = countBack.branchIf false { context with
        machine := { context.machine with stack := { values := #[3, 0x7FFF] } } } := by
  have hdivide : operandValues divide.operands context = .ok [0x8000, 0xFFFF] context := rfl
  have hcount : operandValues countBack.operands context = .ok [0, 0] context := rfl
  have htop : context.machine.Has .stack 0x8000 := .onTop rfl (by decide) rfl
  obtain ⟨hstores, -, -⟩ := step_arithmetic {} divide context context [0x8000, 0xFFFF] 0x8000 0xFFFF
    hdivide rfl rfl (fun _ => by decide)
  obtain ⟨-, -, hsteps⟩ := step_arithmetic {} countBack context context [0, 0] 0 0
    hcount rfl rfl (fun hop => by obtain hop | hop := hop <;> cases hop)
  exact ⟨hdivide, (hstores 32768 rfl).1, hcount, htop, ((hsteps (-1) rfl).1 0x8000 htop).2⟩

open Reckoning in
/-- An arithmetic shift does not always store the integer that it comes to: -1 shifted out of its
word stays -1, not 0. -/
theorem step_artShift_not_exact :
    ¬ ∀ (config : Config) (i : Instruction) (c c' : Context) (a n : UInt16), i.opcode = .artShift →
      operandValues i.operands c = .ok [a, n] c' →
      i.step config c = Context.store i.store (.ofInt (scaled (signed a) (signed n))) c' := by
  intro h
  have hshift := h {} shiftOut context context 0xFFFF 16 rfl rfl
  have hzero : UInt16.ofInt (scaled (signed 0xFFFF) (signed 16)) = 0 :=
    ofInt_scaled_of_le _ (by decide)
  rw [hzero] at hshift
  have htop := congrArg (fun r => (endState r).machine.stack.values) hshift
  exact absurd htop (by decide)

end Instruction
end ZMachine
