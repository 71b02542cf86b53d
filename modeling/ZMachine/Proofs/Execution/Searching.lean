import ZMachine.Proofs.Execution.Arithmetic

/-!
# Searching a table

A search looks at the entries of a table from the first one on until one has the value.  What the
instruction stores is the address of that entry, modulo 65536, and it counts as found if what is
stored is not 0:

    First m k     →   step of i  =  store (address k), then the branch on "65536 does not divide it"
    no entry      →   step of i  =  store 0, then the branch on false

So an entry is told by its address and by the branch just if it lies above 0 and below 65536.
-/

namespace ZMachine

/-! ## Searches -/

namespace Table

/-- A search for a value among so many entries of a table, which a form lays out. -/
structure Search where
  value : UInt16
  table : UInt16
  count : UInt16
  form : UInt16
deriving DecidableEq, Repr

namespace Search

/-- The search that operands describe.  Without a form the entries are words, one behind the
other. -/
def ofOperands (ops : List UInt16) : Search where
  value := ops.getD 0 0
  table := ops.getD 1 0
  count := ops.getD 2 0
  form := if 3 < ops.length then ops.getD 3 0 else 0x82

/-- Where an entry lies. -/
def address (t : Search) (k : Nat) : Nat :=
  t.table.toNat + k * fieldSize t.form

/-- What an entry is. -/
def entry (t : Search) (m : Memory) (k : Nat) : Except OutOfRange UInt16 :=
  Table.entry m t.form (t.address k)

/-- All entries that are looked at can be read: those behind other entries without the value. -/
def Readable (t : Search) (m : Memory) : Prop :=
  ∀ k < t.count.toNat, (∀ j < k, t.entry m j ≠ .ok t.value) → ∃ w, t.entry m k = .ok w

/-- An entry is the first one with the value. -/
structure First (t : Search) (m : Memory) (k : Nat) : Prop where
  listed : k < t.count.toNat
  equal : t.entry m k = .ok t.value
  before : ∀ j < k, t.entry m j ≠ .ok t.value

end Search

variable {m : Memory} {value form : UInt16}

/-- Entries with another value are passed over. -/
theorem scan_add {k : Nat} (count : Nat) {address : Nat}
    (h : ∀ j < k, ∃ w, entry m form (address + j * fieldSize form) = .ok w ∧ w ≠ value) :
    scan m value form (k + count) address =
      scan m value form count (address + k * fieldSize form) := by
  induction k generalizing address with
  | zero => rw [Nat.zero_add, Nat.zero_mul, Nat.add_zero]
  | succ k ih =>
    obtain ⟨w, hw, hne⟩ := h 0 (Nat.succ_pos k)
    rw [Nat.zero_mul, Nat.add_zero] at hw
    have hnext (j : Nat) : address + (j + 1) * fieldSize form =
        address + fieldSize form + j * fieldSize form := by ring
    rw [show k + 1 + count = k + count + 1 by omega, scan, hw]
    show (if w = value then _ else _) = _
    rw [if_neg hne, ih fun j hj => ?_, hnext]
    rw [← hnext]
    exact h (j + 1) (Nat.succ_lt_succ hj)

namespace Search

variable {t : Search} {k : Nat}

/-- One of the entries is the first with the value, or none has it. -/
theorem first_or_absent (t : Search) (m : Memory) :
    (∃ k, t.First m k) ∨ ∀ k < t.count.toNat, t.entry m k ≠ .ok t.value := by
  by_cases h : ∃ k, k < t.count.toNat ∧ t.entry m k = .ok t.value
  · classical
    obtain ⟨hlisted, hequal⟩ := Nat.find_spec h
    refine .inl ⟨Nat.find h, hlisted, hequal, fun j hj hsame => Nat.find_min h hj ⟨?_, hsame⟩⟩
    exact Nat.lt_trans hj hlisted
  · exact .inr fun k hk hequal => h ⟨k, hk, hequal⟩

theorem Readable.passed (h : t.Readable m) (hk : k ≤ t.count.toNat)
    (hother : ∀ j < k, t.entry m j ≠ .ok t.value) (j : Nat) (hj : j < k) :
    ∃ w, Table.entry m t.form (t.table.toNat + j * fieldSize t.form) = .ok w ∧ w ≠ t.value := by
  obtain ⟨w, hw⟩ := h j (by omega) (fun n hn => hother n (Nat.lt_trans hn hj))
  exact ⟨w, hw, fun hsame => hother j hj (hsame ▸ hw)⟩

theorem First.scan_eq (h : t.First m k) (hreadable : t.Readable m) :
    scan m t.value t.form t.count.toNat t.table.toNat = .ok (some (t.address k)) := by
  obtain ⟨rest, hrest⟩ : ∃ rest, t.count.toNat = k + (rest + 1) :=
    ⟨t.count.toNat - k - 1, by have := h.listed; omega⟩
  have hpassed := hreadable.passed (Nat.le_of_lt h.listed) h.before
  have hequal : Table.entry m t.form (t.table.toNat + k * fieldSize t.form) = .ok t.value := h.equal
  rw [hrest, scan_add _ hpassed, scan, hequal]
  exact if_pos rfl

theorem scan_of_absent (h : ∀ k < t.count.toNat, t.entry m k ≠ .ok t.value)
    (hreadable : t.Readable m) :
    scan m t.value t.form t.count.toNat t.table.toNat = .ok none :=
  scan_add 0 (hreadable.passed (Nat.le_refl _) h)

end Search
end Table

/-! ## The instruction -/

namespace Instruction

variable {i : Instruction} {c c' : Context} {ops : List UInt16}

/-- Stores a value, and then branches on whether something was found. -/
def report (i : Instruction) (value : UInt16) (found : Bool) : Exec Unit := do
  Context.store i.store value
  i.branchIf found

/-- What was found is reported by the address alone. -/
theorem perform_scanTable (config : Config) (hop : i.opcode = .scanTable) (hops : 3 ≤ ops.length)
    {found : Option Nat}
    (hscan : Table.scan c.machine.memory (ops.getD 0 0) (Table.Search.ofOperands ops).form
      (ops.getD 2 0).toNat (ops.getD 1 0).toNat = .ok found) :
    i.perform config ops c =
      i.report (.ofNat (found.getD 0)) ((.ofNat (found.getD 0) : UInt16) != 0) c := by
  have hask : Context.ask (fun m _ => Table.scan m (ops.getD 0 0) (Table.Search.ofOperands ops).form
      (ops.getD 2 0).toNat (ops.getD 1 0).toNat) c = .ok found c := by
    unfold Context.ask Machine.ask
    rw [Context.onMachine_run, get_bind]
    dsimp only
    rw [hscan]
    rfl
  unfold perform report
  rw [hop]
  dsimp only
  rw [bind_ok (need_of_le hops)]
  exact bind_ok hask

/-- A search whose entries can be read: the first entry with the value is reported by its address,
modulo 65536, and counts as found unless that is 0; where no entry has the value, 0 is stored and
nothing counts as found.  So what is reported is that the entry was found, and where, just if its
address is neither 0 nor above 65535. -/
theorem step_scanTable (config : Config) (i : Instruction) (c c' : Context) (ops : List UInt16)
    (hop : i.opcode = .scanTable) (hops : operandValues i.operands c = .ok ops c')
    (hthree : 3 ≤ ops.length)
    (hreadable : (Table.Search.ofOperands ops).Readable c'.machine.memory) :
    let t := Table.Search.ofOperands ops
    let m := c'.machine.memory
    (∃ k value found, t.First m k ∧ i.step config c = i.report value found c' ∧
        value = .ofNat (t.address k) ∧ (found = true ↔ ¬ 65536 ∣ t.address k) ∧
        (value.toNat = t.address k ∧ found = true ↔ 0 < t.address k ∧ t.address k < 65536)) ∨
      (∀ k < t.count.toNat, t.entry m k ≠ .ok t.value) ∧
        i.step config c = i.report 0 false c' := by
  intro t m
  have hstep : i.step config c = i.perform config ops c' :=
    step_eq_perform hops (by rw [hop]; rfl)
  obtain ⟨k, hk⟩ | habsent := t.first_or_absent m
  · have hperform := perform_scanTable config hop hthree (hk.scan_eq hreadable)
    rw [Option.getD_some] at hperform
    have hword : (UInt16.ofNat (t.address k)).toNat = t.address k % 65536 := UInt16.toNat_ofNat'
    have hfound : (((.ofNat (t.address k) : UInt16) != 0) = true) ↔ ¬ 65536 ∣ t.address k := by
      rw [bne_iff_ne, ne_eq, ← UInt16.toNat_inj, hword, Nat.dvd_iff_mod_eq_zero]
      rfl
    refine .inl ⟨k, _, _, hk, hstep.trans hperform, rfl, hfound, ?_⟩
    rw [hfound, hword]
    omega
  · have hperform :=
      perform_scanTable config hop hthree (Table.Search.scan_of_absent habsent hreadable)
    have hzero : ((.ofNat 0 : UInt16) != 0) = false := by decide
    rw [Option.getD_none, hzero] at hperform
    exact .inr ⟨habsent, hstep.trans hperform⟩

namespace Seeking

/-- A machine whose memory is three words. -/
def context : Context where
  machine := {
    memory := .ofList [0, 7, 0, 5, 0, 5]
    header := default
    pc := 8
    story := .ofList [] }
  undo := .ofDepth 1

/-- Looks for 5 among the words, and goes to 9 if it is there. -/
def seekWord : Instruction :=
  ⟨0, 8, .scanTable, [.const 5, .const 0, .const 3], some .stack, some ⟨true, .address 9⟩, none⟩

/-- Looks for a zero in the first byte, and goes to 9 if it is there. -/
def seekFirst : Instruction :=
  ⟨0, 8, .scanTable, [.const 0, .const 0, .const 1, .const 1], some .stack,
    some ⟨true, .address 9⟩, none⟩

end Seeking

open Seeking in
/-- The second word is the first one that is 5. -/
theorem step_scanTable_secondWord :
    operandValues seekWord.operands context = .ok [5, 0, 3] context ∧
      (Table.Search.ofOperands [5, 0, 3]).Readable context.machine.memory ∧
      seekWord.step {} context = seekWord.report 2 true context := by
  have hops : operandValues seekWord.operands context = .ok [5, 0, 3] context := rfl
  have hreadable : (Table.Search.ofOperands [5, 0, 3]).Readable context.machine.memory := by
    intro k hk _
    have hk3 : k < 3 := hk
    obtain rfl | rfl | rfl : k = 0 ∨ k = 1 ∨ k = 2 := by omega
    all_goals exact ⟨_, rfl⟩
  have hfirst : ∀ k, (Table.Search.ofOperands [5, 0, 3]).First context.machine.memory k → k = 1 := by
    rintro k ⟨hk, hequal, hbefore⟩
    have hk3 : k < 3 := hk
    obtain rfl | rfl | rfl : k = 0 ∨ k = 1 ∨ k = 2 := by omega
    · exact absurd (Except.ok.inj hequal) (by decide)
    · rfl
    · exact absurd rfl (hbefore 1 (by decide))
  obtain ⟨k, value, found, hk, hstep, rfl, hfound, -⟩ | ⟨habsent, -⟩ :=
    step_scanTable {} seekWord context context [5, 0, 3] rfl hops (by decide) hreadable
  · obtain rfl := hfirst k hk
    obtain rfl : found = true := hfound.2 (by decide)
    exact ⟨hops, hreadable, hstep⟩
  · exact absurd rfl (habsent 1 (by decide))

open Seeking in
/-- An entry that is there is not always reported: one at address 0 does not count as found. -/
theorem step_scanTable_not_always :
    ¬ ∀ (config : Config) (i : Instruction) (c c' : Context) (ops : List UInt16) (k : Nat),
      i.opcode = .scanTable → operandValues i.operands c = .ok ops c' → 3 ≤ ops.length →
      (Table.Search.ofOperands ops).Readable c'.machine.memory →
      (Table.Search.ofOperands ops).First c'.machine.memory k →
      i.step config c =
        i.report (.ofNat ((Table.Search.ofOperands ops).address k)) true c' := by
  intro h
  have hreadable : (Table.Search.ofOperands [0, 0, 1, 1]).Readable context.machine.memory := by
    intro k hk _
    obtain rfl : k = 0 := Nat.lt_one_iff.1 hk
    exact ⟨_, rfl⟩
  have hfirst : (Table.Search.ofOperands [0, 0, 1, 1]).First context.machine.memory 0 :=
    ⟨by decide, rfl, fun j hj => absurd hj (Nat.not_lt_zero j)⟩
  have hstep := h {} seekFirst context context [0, 0, 1, 1] 0 rfl rfl (by decide) hreadable hfirst
  exact absurd (congrArg (fun r => (endState r).machine.pc) hstep) (by decide)

end Instruction
end ZMachine
