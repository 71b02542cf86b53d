import ZMachine.Execution.Step
import ZMachine.Proofs.Action
import ZMachine.Proofs.Loop
import ZMachine.Proofs.Memory

/-!
# The loops of an instruction

How long a loop of an instruction takes is told by the bytes of the story.  Each of them but one ends
whatever these are, within a number of rounds that is known when it begins:

    properties of an object      each header lies behind the one before
    z-string                     each word lies behind the one before
    halving a dictionary         each round leaves fewer entries
    other searches, printing     each round leaves one entry or one row less

So a bound on the rounds changes nothing: what is answered with it is what `loop` answers.  The walk
along siblings is the exception, for which there is no bound.
-/

namespace ZMachine

/-! ## Siblings -/

namespace ObjectTable

/-- A round goes on just from an object to a sibling that is not the one looked for. -/
theorem walkRound_eq_again_iff {t : ObjectTable} {m : Memory} {o current next : UInt16} :
    t.walkRound m o current = .again next ↔
      current ≠ 0 ∧ t.sibling m current = .ok next ∧ next ≠ o := by
  unfold walkRound
  by_cases hzero : current = 0
  · simp [hzero]
  · rw [if_neg hzero]
    cases hsibling : t.sibling m current with
    | error e => simp
    | ok x =>
      constructor
      · intro h
        dsimp only at h
        split at h
        · cases h
        · next hfound =>
          cases h
          exact ⟨hzero, rfl, hfound⟩
      · rintro ⟨-, hx, hne⟩
        cases hx
        exact if_neg hne

/-! ## Properties -/

/-- A round of the search for a property. -/
def findRound (m : Memory) (number address : Nat) : Round Nat (Except Fault (Option Property)) :=
  match propertyAt m address with
  | .error e => .done (.error e)
  | .ok none => .done (.ok none)
  | .ok (some p) =>
    if p.number = number then .done (.ok (some p))
    else if p.number < number then .done (.ok none)
    else .again p.stop

theorem findFrom_round (m : Memory) (number fuel address : Nat) :
    findFrom m number (fuel + 1) address =
      (findRound m number address).elim id (findFrom m number fuel) := by
  unfold findFrom findRound
  cases propertyAt m address with
  | error e => rfl
  | ok found =>
    cases found with
    | none => rfl
    | some p =>
      show (if p.number = number then _ else if p.number < number then _ else _) = _
      dsimp only
      split
      · rfl
      · split <;> rfl

theorem longLength_pos (b : UInt8) : 0 < longLength b := by
  unfold longLength
  split <;> omega

/-- A header is in the memory, and the property takes bytes. -/
theorem propertyAt_bounds {m : Memory} {address : Nat} {p : Property}
    (h : propertyAt m address = .ok (some p)) : address < m.size ∧ address < p.stop := by
  unfold propertyAt at h
  cases hb : m.read8 address with
  | error e =>
    rw [hb] at h
    cases h
  | ok b =>
    rw [hb] at h
    change (if b = 0 then _ else _) = _ at h
    refine ⟨(Array.getElem?_eq_some_iff.1 ((m.read8_eq_ok_iff address b).1 hb)).1, ?_⟩
    unfold Property.stop
    by_cases hzero : b = 0
    · rw [if_pos hzero] at h
      cases h
    rw [if_neg hzero] at h
    split at h
    · cases hsecond : m.read8 (address + 1) with
      | error e =>
        rw [hsecond] at h
        cases h
      | ok second =>
        rw [hsecond] at h
        cases h
        have := longLength_pos second
        dsimp only
        omega
    · cases h
      dsimp only
      omega

/-- The search for a property ends. -/
theorem findFrom_ends (m : Memory) (number address : Nat) :
    Ends (findRound m number) (m.size + 1) address (findFrom m number (m.size + 1) address) := by
  refine ends_of_measure (m.size - ·) (findFrom_round m number) (fun a next hround => ?_)
    (show m.size - address < m.size + 1 by omega)
  unfold findRound at hround
  split at hround
  · cases hround
  · cases hround
  · next p hat =>
    have hbounds := propertyAt_bounds hat
    split at hround
    · cases hround
    · split at hround
      · cases hround
      · cases hround
        omega

end ObjectTable

/-! ## Text -/

namespace ZString

/-- A round of reading a z-string, at an address and after some z-characters. -/
def readRound (m : Memory) :
    Nat × List Nat → Round (Nat × List Nat) (Except OutOfRange (List Nat × Nat))
  | (pos, seen) => match m.read16 pos with
    | .error e => .done (.error e)
    | .ok w =>
      if isLast w then .done (.ok (((zchars w).reverse ++ seen).reverse, pos + 2))
      else .again (pos + 2, (zchars w).reverse ++ seen)

theorem readZchars_round (m : Memory) (fuel : Nat) (s : Nat × List Nat) :
    readZchars m (fuel + 1) s.1 s.2 =
      (readRound m s).elim id fun s => readZchars m fuel s.1 s.2 := by
  obtain ⟨pos, seen⟩ := s
  unfold readRound
  dsimp only
  rw [readZchars]
  cases m.read16 pos with
  | error e => rfl
  | ok w =>
    show (if isLast w = true then _ else _) = _
    dsimp only
    split <;> rfl

/-- A z-string ends, at the latest with the memory. -/
theorem read_ends (m : Memory) (address : Nat) :
    Ends (readRound m) (m.size + 1) (address, []) (read m address) := by
  by_cases hempty : m.size = 0
  · have hout : ¬ address + 1 < m.bytes.size := by unfold Memory.size at hempty; omega
    refine .done ?_
    unfold readRound read
    dsimp only
    rw [Memory.read16, dif_neg hout, hempty, readZchars, hempty]
  · -- each word takes two bytes, so that half the size would do
    have hbegin : (m.size - address) / 2 < m.size := by omega
    refine (ends_of_measure (f := fun n (s : Nat × List Nat) => readZchars m n s.1 s.2)
      (fun s => (m.size - s.1) / 2) (readZchars_round m) (fun s next hround => ?_) hbegin).mono
      (Nat.le_succ m.size)
    obtain ⟨pos, seen⟩ := s
    unfold readRound at hround
    dsimp only at hround
    cases hw : m.read16 pos with
    | error e =>
      rw [hw] at hround
      cases hround
    | ok w =>
      rw [hw] at hround
      obtain ⟨high, low, -, hlow, -⟩ := (m.read16_eq_ok_iff pos w).1 hw
      have hin : pos + 1 < m.size := (Array.getElem?_eq_some_iff.1 hlow).1
      dsimp only at hround
      split at hround
      · cases hround
      · cases hround
        dsimp only
        omega

end ZString

namespace Dictionary

/-- A round of halving the entries from `low` to before `high`. -/
def halveRound (d : Dictionary) (m : Memory) (key : List UInt8) :
    Nat × Nat → Round (Nat × Nat) (Except OutOfRange Nat)
  | (low, high) =>
    if low < high then
      match m.readBytes (d.entry ((low + high) / 2)) 6 with
      | .error e => .done (.error e)
      | .ok k => match compare k key with
        | .eq => .done (.ok (d.entry ((low + high) / 2)))
        | .lt => .again ((low + high) / 2 + 1, high)
        | .gt => .again (low, (low + high) / 2)
    else .done (.ok 0)

section
variable (d : Dictionary) (m : Memory) (key : List UInt8)

theorem searchSorted_round (fuel : Nat) (s : Nat × Nat) :
    d.searchSorted m key (fuel + 1) s.1 s.2 =
      (d.halveRound m key s).elim id fun s => d.searchSorted m key fuel s.1 s.2 := by
  obtain ⟨low, high⟩ := s
  unfold halveRound
  rw [searchSorted]
  dsimp only
  by_cases hlt : low < high
  · rw [if_pos hlt, if_pos hlt]
    cases m.readBytes (d.entry ((low + high) / 2)) 6 with
    | error e => rfl
    | ok k =>
      show (match compare k key with | .eq => _ | .lt => _ | .gt => _) = _
      dsimp only
      cases compare k key <;> rfl
  · rw [if_neg hlt, if_neg hlt]
    rfl

/-- Halving the entries ends. -/
theorem searchSorted_ends (count : Nat) :
    Ends (d.halveRound m key) (count + 1) (0, count) (d.searchSorted m key (count + 1) 0 count) := by
  refine ends_of_measure (f := fun n (s : Nat × Nat) => d.searchSorted m key n s.1 s.2)
    (fun s => s.2 - s.1) (d.searchSorted_round m key) (fun s next hround => ?_)
    (Nat.lt_succ_self count)
  obtain ⟨low, high⟩ := s
  unfold halveRound at hround
  dsimp only at hround
  split at hround
  · next hlt =>
    split at hround
    · cases hround
    · split at hround
      · cases hround
      · cases hround
        dsimp only
        omega
      · cases hround
        dsimp only
        omega
  · cases hround

/-- A round of looking at `count` entries from number `i` on. -/
def nextRound : Nat × Nat → Round (Nat × Nat) (Except OutOfRange Nat)
  | (0, _) => .done (.ok 0)
  | (count + 1, i) => match m.readBytes (d.entry i) 6 with
    | .error e => .done (.error e)
    | .ok k => if k = key then .done (.ok (d.entry i)) else .again (count, i + 1)

/-- Looking at one entry after another ends. -/
theorem searchLinear_ends (count i : Nat) :
    Ends (d.nextRound m key) (count + 1) (count, i) (d.searchLinear m key count i) := by
  refine ends_of_measure (f := fun _ (s : Nat × Nat) => d.searchLinear m key s.1 s.2) Prod.fst
    (fun _ s => ?_) (fun s next hround => ?_) (Nat.lt_succ_self count)
  · obtain ⟨count, i⟩ := s
    cases count with
    | zero => rfl
    | succ count =>
      unfold nextRound
      dsimp only
      rw [searchLinear]
      cases m.readBytes (d.entry i) 6 with
      | error e => rfl
      | ok k =>
        show (if k = key then _ else _) = _
        dsimp only
        split <;> rfl
  · obtain ⟨count, i⟩ := s
    cases count with
    | zero => cases hround
    | succ count =>
      unfold nextRound at hround
      dsimp only at hround
      split at hround
      · cases hround
      · split at hround
        · cases hround
        · cases hround
          exact Nat.lt_succ_self count

end

end Dictionary

/-! ## Tables -/

namespace Table

/-- A round of searching `count` entries from an address on. -/
def scanRound (m : Memory) (value form : UInt16) :
    Nat × Nat → Round (Nat × Nat) (Except OutOfRange (Option Nat))
  | (0, _) => .done (.ok none)
  | (count + 1, address) => match entry m form address with
    | .error e => .done (.error e)
    | .ok w =>
      if w = value then .done (.ok (some address)) else .again (count, address + fieldSize form)

/-- Searching a table ends. -/
theorem scan_ends (m : Memory) (value form : UInt16) (count address : Nat) :
    Ends (scanRound m value form) (count + 1) (count, address) (scan m value form count address) := by
  refine ends_of_measure (f := fun _ (s : Nat × Nat) => scan m value form s.1 s.2) Prod.fst
    (fun _ s => ?_) (fun s next hround => ?_) (Nat.lt_succ_self count)
  · obtain ⟨count, address⟩ := s
    cases count with
    | zero => rfl
    | succ count =>
      unfold scanRound
      dsimp only
      rw [scan]
      cases entry m form address with
      | error e => rfl
      | ok w =>
        show (if w = value then _ else _) = _
        dsimp only
        split <;> rfl
  · obtain ⟨count, address⟩ := s
    cases count with
    | zero => cases hround
    | succ count =>
      unfold scanRound at hround
      dsimp only at hround
      split at hround
      · cases hround
      · split at hround
        · cases hround
        · cases hround
          exact Nat.lt_succ_self count

/-- Prints a row; those after the first one start a line. -/
def printRow (width : Nat) (first : Bool) (address : Nat) : Exec Unit := do
  if !first then Context.print "\n"
  let codes ← (← get).machine.memory.readBytes address width
  Context.print (← rowText codes)

theorem print_succ (width skip : Nat) (first : Bool) (rows address : Nat) :
    print width skip first (rows + 1) address = (do
      printRow width first address
      print width skip false rows (address + width + skip)) := by
  unfold printRow
  cases first <;> simp [print]

/-- A round of printing `rows` rows from an address on. -/
def printRound (width skip : Nat) : Nat × Bool × Nat × Context →
    Round (Nat × Bool × Nat × Context) (EStateM.Result Fault Context Unit)
  | (0, _, _, c) => .done (.ok () c)
  | (rows + 1, first, address, c) => match printRow width first address c with
    | .error e c' => .done (.error e c')
    | .ok _ c' => .again (rows, false, address + width + skip, c')

/-- Printing a table ends. -/
theorem print_ends (width skip : Nat) (first : Bool) (rows address : Nat) (c : Context) :
    Ends (printRound width skip) (rows + 1) (rows, first, address, c)
      (print width skip first rows address c) := by
  refine ends_of_measure (f := fun _ (s : Nat × Bool × Nat × Context) =>
    print width skip s.2.1 s.1 s.2.2.1 s.2.2.2) Prod.fst
    (fun _ s => ?_) (fun s next hround => ?_) (Nat.lt_succ_self rows)
  · obtain ⟨rows, first, address, c⟩ := s
    cases rows with
    | zero =>
      unfold print
      rfl
    | succ rows =>
      unfold printRound
      dsimp only
      rw [print_succ]
      cases hrow : printRow width first address c with
      | error e c' => rw [bind_error hrow]; rfl
      | ok u c' => rw [bind_ok hrow]; rfl
  · obtain ⟨rows, first, address, c⟩ := s
    cases rows with
    | zero => cases hround
    | succ rows =>
      unfold printRound at hround
      dsimp only at hround
      split at hround
      · cases hround
      · cases hround
        exact Nat.lt_succ_self rows

end Table
end ZMachine
