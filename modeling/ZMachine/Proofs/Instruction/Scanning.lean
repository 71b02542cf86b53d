import ZMachine.Proofs.Instruction.Encoding

/-!
# What the scans read

`Scan.Reads x W` says that a scan is the exact reader of what `W` says is written: it succeeds just
if the memory holds bytes of `W` at the position, and then it ends behind them.

    x m pos = .ok (a, stop)   ↔
      ∃ bytes, W pos a bytes ∧ m.Holds pos bytes ∧ stop = pos + bytes.length

Each scan of an instruction is the reader of its part of the encoding; `reads_instruction` says so
of the whole.
-/

namespace ZMachine

variable {α β : Type}

namespace Scan

/-! ## Exact readers -/

theorem bind_run (x : Scan α) (f : α → Scan β) (pos : Nat) :
    (x >>= f) pos = match x pos with
      | .ok (a, stop) => f a stop
      | .error e => .error e := by
  show StateT.bind x f pos = _
  unfold StateT.bind
  cases x pos <;> rfl

/-- A scan reads just what `W` says is written: it succeeds with an answer if the memory holds bytes
for it at the position, and then ends behind them. -/
def Reads (x : Memory → Scan α) (W : Nat → α → List UInt8 → Prop) : Prop :=
  ∀ m pos a stop, x m pos = .ok (a, stop) ↔
    ∃ bytes, W pos a bytes ∧ m.Holds pos bytes ∧ stop = pos + bytes.length

variable {x : Memory → Scan α} {W W' : Nat → α → List UInt8 → Prop}

theorem Reads.congr (h : Reads x W) (hW : ∀ pos a bytes, W pos a bytes ↔ W' pos a bytes) :
    Reads x W' := by
  intro m pos a stop
  rw [h m pos a stop]
  simp only [hW]

theorem reads_pure (a : α) :
    Reads (fun _ => (pure a : Scan α)) fun _ b bytes => b = a ∧ bytes = [] := by
  intro m pos b stop
  constructor
  · intro h
    cases h
    exact ⟨[], ⟨rfl, rfl⟩, m.holds_nil pos, rfl⟩
  · rintro ⟨_, ⟨rfl, rfl⟩, -, rfl⟩
    rfl

/-- A scan with another one behind it: what the first one reads stands in front of what the second
one starts at. -/
theorem Reads.bind_eq_ok_iff (h : Reads x W) (m : Memory) (f : α → Scan β) (pos : Nat)
    (r : β × Nat) : (x m >>= f) pos = .ok r ↔
      ∃ a bytes, W pos a bytes ∧ m.Holds pos bytes ∧ f a (pos + bytes.length) = .ok r := by
  rw [bind_run]
  constructor
  · intro hr
    cases hx : x m pos with
    | error e =>
      rw [hx] at hr
      cases hr
    | ok s =>
      rw [hx] at hr
      obtain ⟨bytes, hbytes, hheld, hstop⟩ := (h m pos s.1 s.2).1 hx
      exact ⟨s.1, bytes, hbytes, hheld, hstop ▸ hr⟩
  · rintro ⟨a, bytes, hbytes, hheld, hr⟩
    rw [(h m pos a _).2 ⟨bytes, hbytes, hheld, rfl⟩]
    exact hr

/-- An answer made of what is read. -/
theorem reads_map {W : Nat → α → List UInt8 → Prop} {x : Memory → Scan α} (f : α → β)
    (hx : Reads x W) :
    Reads (fun m => x m >>= fun a => pure (f a))
      fun pos b bytes => ∃ a, b = f a ∧ W pos a bytes := by
  intro m pos b stop
  dsimp only
  rw [hx.bind_eq_ok_iff m]
  constructor
  · rintro ⟨a, bytes, hbytes, hheld, h⟩
    cases h
    exact ⟨bytes, ⟨a, rfl, hbytes⟩, hheld, rfl⟩
  · rintro ⟨bytes, ⟨a, rfl, hbytes⟩, hheld, rfl⟩
    exact ⟨a, bytes, hbytes, hheld, rfl⟩

theorem reads_byte : Reads byte (fun _ b bytes => bytes = [b]) := by
  intro m pos b stop
  unfold byte
  constructor
  · intro h
    cases hr : m.read8 pos with
    | error e =>
      rw [hr] at h
      cases h
    | ok v =>
      rw [hr] at h
      cases h
      exact ⟨[b], rfl, (m.holds_singleton pos b).2 hr, rfl⟩
  · rintro ⟨_, rfl, hheld, rfl⟩
    rw [(m.holds_singleton pos b).1 hheld]
    rfl

theorem reads_word : Reads word fun _ w bytes => bytes = wordBytes w := by
  intro m pos w stop
  unfold word
  constructor
  · intro h
    cases hr : m.read16 pos with
    | error e =>
      rw [hr] at h
      cases h
    | ok v =>
      rw [hr] at h
      cases h
      exact ⟨wordBytes w, rfl, (m.holds_wordBytes pos w).2 hr, rfl⟩
  · rintro ⟨_, rfl, hheld, rfl⟩
    rw [(m.holds_wordBytes pos w).1 hheld]
    rfl

/-! ## Openings -/

theorem byte_bind {m : Memory} {pos : Nat} {b : UInt8} (h : m.read8 pos = .ok b)
    (f : UInt8 → Scan α) : (byte m >>= f) pos = f b (pos + 1) := by
  rw [bind_run, byte, h]

theorem byte_bind_eq_ok {m : Memory} {pos : Nat} {f : UInt8 → Scan α} {r : α × Nat}
    (h : (byte m >>= f) pos = .ok r) : ∃ b, m.read8 pos = .ok b ∧ f b (pos + 1) = .ok r := by
  obtain ⟨b, _, rfl, hheld, h⟩ := (reads_byte.bind_eq_ok_iff m f pos r).1 h
  exact ⟨b, (m.holds_singleton pos b).1 hheld, h⟩

/-- What is held with a byte in front of it. -/
theorem byte_cons {m : Memory} {pos stop : Nat} {b : UInt8} {W : List UInt8 → Prop}
    (hb : m.read8 pos = .ok b)
    (h : ∃ bytes, W (b :: bytes) ∧ m.Holds (pos + 1) bytes ∧ stop = pos + 1 + bytes.length) :
    ∃ bytes, W bytes ∧ m.Holds pos bytes ∧ stop = pos + bytes.length := by
  obtain ⟨bytes, hw, hheld, rfl⟩ := h
  refine ⟨b :: bytes, hw, ?_, ?_⟩
  · exact (m.holds_cons pos b bytes).2 ⟨hb, hheld⟩
  · rw [List.length_cons]
    omega

/-- What the scan reads is an opening. -/
theorem opening_sound {m : Memory} {pos stop : Nat} {o : Opening}
    (h : opening m pos = .ok (o, stop)) :
    ∃ bytes, (Opens o.cls o.number o.kinds bytes ∧ bytes.head? = some o.first) ∧
      m.Holds pos bytes ∧ stop = pos + bytes.length := by
  obtain ⟨first, hfirst, h⟩ := byte_bind_eq_ok h
  refine byte_cons hfirst ?_
  by_cases hextended : first = 0xBE
  · rw [if_pos hextended] at h
    obtain ⟨number, hnumber, h⟩ := byte_bind_eq_ok h
    obtain ⟨kinds, hkinds, h⟩ := byte_bind_eq_ok h
    cases h
    obtain ⟨a, b, c, d, rfl, hlists⟩ := OperandKind.ofBytes_single kinds
    subst hextended
    exact byte_cons hnumber (byte_cons hkinds ⟨[], ⟨.extended hlists, rfl⟩, m.holds_nil _, rfl⟩)
  rw [if_neg hextended] at h
  by_cases hlong : first < 0x80
  · rw [if_pos hlong] at h
    cases h
    exact ⟨[], ⟨.of_long first hlong, rfl⟩, m.holds_nil _, rfl⟩
  rw [if_neg hlong] at h
  by_cases hshort : first < 0xC0
  · rw [if_pos hshort] at h
    cases hkind : OperandKind.ofBits (first.toNat / 16) with
    | some kind =>
      rw [hkind] at h
      cases h
      exact ⟨[], ⟨.of_short hlong hshort hkind, rfl⟩, m.holds_nil _, rfl⟩
    | none =>
      rw [hkind] at h
      cases h
      exact ⟨[], ⟨.of_bare hextended hlong hshort hkind, rfl⟩, m.holds_nil _, rfl⟩
  rw [if_neg hshort] at h
  obtain ⟨kinds, hkinds, h⟩ := byte_bind_eq_ok h
  refine byte_cons hkinds ?_
  by_cases hdouble :
      hasLongKinds (if first &&& 0x20 = 0 then .twoOp else .varOp) (first &&& 0x1F) = true
  · rw [if_pos hdouble] at h
    obtain ⟨more, hmore, h⟩ := byte_bind_eq_ok h
    cases h
    exact byte_cons hmore ⟨[], ⟨.of_double hshort hdouble, rfl⟩, m.holds_nil _, rfl⟩
  · rw [if_neg hdouble] at h
    cases h
    exact ⟨[], ⟨.of_variable hshort (Bool.not_eq_true _ ▸ hdouble), rfl⟩, m.holds_nil _, rfl⟩

/-- The scan of a variable form, once its first two bytes are read. -/
theorem opening_variable {m : Memory} {pos : Nat} {b kinds : UInt8} (hhigh : ¬b < 0xC0)
    (hb : m.read8 pos = .ok b) (hkinds : m.read8 (pos + 1) = .ok kinds) {cls : OpClass}
    (hcls : (if b &&& 0x20 = 0 then .twoOp else .varOp) = cls) {number : UInt8}
    (hnumber : b &&& 0x1F = number) :
    opening m pos = (if hasLongKinds cls number then do
        let more ← byte m
        return ⟨b, cls, number, OperandKind.ofBytes [kinds, more]⟩
      else return ⟨b, cls, number, OperandKind.ofBytes [kinds]⟩ : Scan Opening) (pos + 2) := by
  have hextended : b ≠ 0xBE := by
    rintro rfl
    exact hhigh (by decide)
  have hlow : ¬b < 0x80 := fun h => hhigh (UInt8.lt_trans h (by decide))
  rw [opening, byte_bind hb, if_neg hextended, if_neg hlow, if_neg hhigh, byte_bind hkinds, hcls,
    hnumber]

theorem opening_complete {m : Memory} {pos : Nat} {o : Opening} {bytes : List UInt8}
    (h : Opens o.cls o.number o.kinds bytes) (hfirst : bytes.head? = some o.first)
    (hheld : m.Holds pos bytes) : opening m pos = .ok (o, pos + bytes.length) := by
  obtain ⟨first, cls, number, kinds⟩ := o
  dsimp only at h hfirst
  cases h with
  | long hnumber hone htwo =>
    obtain rfl := Option.some.inj hfirst
    obtain ⟨hlt, hlow, hone, htwo⟩ := Opens.long_byte hnumber hone htwo rfl
    have hextended : ∀ b : UInt8, b < 0x80 → b ≠ 0xBE := by
      rintro _ h rfl
      exact absurd h (by decide)
    rw [opening, byte_bind ((m.holds_singleton _ _).1 hheld), if_neg (hextended _ hlt), if_pos hlt,
      hlow, hone, htwo]
    rfl
  | short kind hnumber =>
    obtain rfl := Option.some.inj hfirst
    obtain ⟨hlow, hlt, hnumber, hkind⟩ := Opens.short_byte hnumber rfl
    have hextended : ∀ b : UInt8, b < 0xB0 → b ≠ 0xBE := by
      rintro _ h rfl
      exact absurd h (by decide)
    rw [opening, byte_bind ((m.holds_singleton _ _).1 hheld), if_neg (hextended _ hlt), if_neg hlow,
      if_pos (UInt8.lt_trans hlt (by decide)), hkind, hnumber]
    rfl
  | bare hnumber hother =>
    obtain rfl := Option.some.inj hfirst
    obtain ⟨hextended, hlow, hlt, hnumber, hkind⟩ := Opens.bare_byte hnumber hother rfl
    rw [opening, byte_bind ((m.holds_singleton _ _).1 hheld), if_neg hextended, if_neg hlow,
      if_pos hlt, hkind, hnumber]
    rfl
  | variableTwo hnumber hlists =>
    obtain rfl := Option.some.inj hfirst
    rw [m.holds_cons, m.holds_singleton] at hheld
    obtain ⟨hhigh, hlow, htwo⟩ := Opens.variable_fields hnumber true rfl
    rw [opening_variable hhigh hheld.1 hheld.2 (if_pos (htwo.2 rfl)) hlow,
      OperandKind.ofBytes_byte hlists]
    rfl
  | variableAny hnumber hshort hlists =>
    obtain rfl := Option.some.inj hfirst
    rw [m.holds_cons, m.holds_singleton] at hheld
    obtain ⟨hhigh, hlow, htwo⟩ := Opens.variable_fields hnumber false rfl
    rw [opening_variable hhigh hheld.1 hheld.2 (if_neg fun h => Bool.noConfusion (htwo.1 h)) hlow,
      if_neg (by simpa [hasLongKinds] using hshort), OperandKind.ofBytes_byte hlists]
    rfl
  | double hlong hlists =>
    obtain rfl := Option.some.inj hfirst
    rw [m.holds_cons, m.holds_cons, m.holds_singleton] at hheld
    have hnumber : number < 32 := by rcases hlong with rfl | rfl <;> decide
    obtain ⟨hhigh, hlow, htwo⟩ := Opens.variable_fields hnumber false rfl
    rw [opening_variable hhigh hheld.1 hheld.2.1 (if_neg fun h => Bool.noConfusion (htwo.1 h)) hlow,
      if_pos (by simpa [hasLongKinds] using hlong), byte_bind hheld.2.2,
      OperandKind.ofBytes_byte_byte hlists]
    rfl
  | extended hlists =>
    obtain rfl := Option.some.inj hfirst
    rw [m.holds_cons, m.holds_cons, m.holds_singleton] at hheld
    rw [opening, byte_bind hheld.1, if_pos rfl, byte_bind hheld.2.1, byte_bind hheld.2.2,
      OperandKind.ofBytes_byte hlists]
    rfl

theorem reads_opening : Reads opening fun _ o bytes =>
    Opens o.cls o.number o.kinds bytes ∧ bytes.head? = some o.first := by
  intro m pos o stop
  constructor
  · exact opening_sound
  · rintro ⟨bytes, ⟨hopens, hfirst⟩, hheld, rfl⟩
    exact opening_complete hopens hfirst hheld

/-! ## Operands -/

theorem reads_operand (kind : OperandKind) :
    Reads (fun m => operand m kind) fun _ o bytes => Operand.Written kind o bytes := by
  cases kind with
  | large =>
    refine (reads_map Operand.const reads_word).congr fun pos o bytes => ⟨?_, ?_⟩
    · rintro ⟨w, rfl, rfl⟩
      exact .large w
    · intro h
      cases h
      exact ⟨_, rfl, rfl⟩
  | small =>
    refine (reads_map (fun b : UInt8 => Operand.const b.toUInt16) reads_byte).congr
      fun pos o bytes => ⟨?_, ?_⟩
    · rintro ⟨b, rfl, rfl⟩
      exact .small b
    · intro h
      cases h
      exact ⟨_, rfl, rfl⟩
  | «variable» =>
    refine (reads_map (fun b => Operand.var ⟨b⟩) reads_byte).congr fun pos o bytes => ⟨?_, ?_⟩
    · rintro ⟨b, rfl, rfl⟩
      exact .variable b
    · intro h
      cases h
      exact ⟨_, rfl, rfl⟩

theorem reads_operands (kinds : List OperandKind) :
    Reads (fun m => kinds.mapM (operand m))
      fun _ os bytes => Operand.AllWritten kinds os bytes := by
  induction kinds with
  | nil =>
    refine (reads_pure []).congr fun pos os bytes => ⟨?_, ?_⟩
    · rintro ⟨rfl, rfl⟩
      exact .nil
    · rintro ⟨⟩
      exact ⟨rfl, rfl⟩
  | cons kind rest ih =>
    intro m pos os stop
    dsimp only
    rw [List.mapM_cons, (reads_operand kind).bind_eq_ok_iff m]
    constructor
    · rintro ⟨o, front, hfront, hheld, h⟩
      obtain ⟨back, ⟨os, rfl, hback⟩, hheld', rfl⟩ := (reads_map (o :: ·) ih m _ _ _).1 h
      refine ⟨front ++ back, .cons hfront hback, (m.holds_append _ _ _).2 ⟨hheld, hheld'⟩, ?_⟩
      rw [List.length_append, Nat.add_assoc]
    · rintro ⟨bytes, hwritten, hheld, rfl⟩
      cases hwritten with
      | @cons _ _ o os front back hfront hback =>
        rw [m.holds_append] at hheld
        refine ⟨o, front, hfront, hheld.1, ?_⟩
        refine (reads_map (o :: ·) ih m _ _ _).2 ⟨back, ⟨os, rfl, hback⟩, hheld.2, ?_⟩
        rw [List.length_append, Nat.add_assoc]

/-! ## Stores, branches and texts -/

theorem reads_optional (present : Bool) {x : Memory → Scan α} {W : Nat → α → List UInt8 → Prop}
    (hx : Reads x W) : Reads (fun m => optional present (x m)) (WrittenIf W present) := by
  cases present with
  | true =>
    refine (reads_map some hx).congr fun pos a bytes => ?_
    cases a <;> simp [WrittenIf]
  | false =>
    refine (reads_pure none).congr fun pos a bytes => ?_
    cases a <;> simp [WrittenIf]

theorem reads_branch : Reads branch Branch.Written := by
  intro m pos branch stop
  constructor
  · intro h
    obtain ⟨first, hfirst, h⟩ := byte_bind_eq_ok h
    obtain ⟨hlt, hoffset, hbyte⟩ := Branch.first_byte first
    refine byte_cons hfirst ?_
    by_cases hsix : (first &&& 0x40 != 0) = true
    · rw [if_pos hsix] at h hbyte
      cases h
      refine ⟨[], ?_, m.holds_nil _, rfl⟩
      have hwritten := Branch.Written.short (first &&& 0x80 != 0) hlt
        ((BranchTarget.branchTarget_eq_iff (pos + 1) _ _).1 rfl)
      rwa [← hbyte, hoffset] at hwritten
    · rw [if_neg hsix] at h hbyte
      obtain ⟨low, hlow, h⟩ := byte_bind_eq_ok h
      cases h
      refine byte_cons hlow ⟨[], ?_, m.holds_nil _, rfl⟩
      have hbits : first.toNat % 64 * 256 + low.toNat < 0x4000 := by
        have := low.toNat_lt
        omega
      have hwritten : Branch.Written pos _ [_, low] := .long (first &&& 0x80 != 0) hlt
        (by rw [hoffset]; exact (signed14_eq_iff hbits _).1 rfl)
        ((BranchTarget.branchTarget_eq_iff (pos + 2) _ _).1 rfl)
      rw [UInt8.add_zero] at hbyte
      rwa [← hbyte] at hwritten
  · rintro ⟨bytes, hwritten, hheld, rfl⟩
    cases hwritten with
    | @short onTrue offset target hoffset htarget =>
      obtain ⟨hpolarity, hsix, hbits⟩ := Branch.first_fields hoffset onTrue true rfl
      rw [if_pos rfl] at hpolarity hsix hbits
      rw [branch, byte_bind ((m.holds_singleton _ _).1 hheld), hpolarity, hsix, hbits, if_pos rfl,
        ← (BranchTarget.branchTarget_eq_iff _ _ _).2 htarget]
      rfl
    | @long onTrue high low offset target hhigh hoffset htarget =>
      obtain ⟨hpolarity, hsix, hbits⟩ := Branch.first_fields hhigh onTrue false rfl
      rw [if_neg Bool.false_ne_true, UInt8.add_zero] at hpolarity hsix hbits
      rw [m.holds_cons, m.holds_singleton] at hheld
      have hlow := low.toNat_lt
      have hlt : high.toNat < 64 := hhigh
      rw [branch, byte_bind hheld.1, hpolarity, hsix, hbits, if_neg Bool.false_ne_true,
        byte_bind hheld.2, (signed14_eq_iff (by omega) offset).2 hoffset,
        ← (BranchTarget.branchTarget_eq_iff _ _ _).2 htarget]
      rfl

theorem textEnd_step (m : Memory) (fuel pos : Nat) {w : UInt16} (h : m.read16 pos = .ok w) :
    textEnd m (fuel + 1) pos =
      if 0x8000 ≤ w then .ok (pos + 2) else textEnd m fuel (pos + 2) := by
  rw [textEnd, h]
  change (if (w &&& 0x8000 != 0) = true then Except.ok (pos + 2) else textEnd m fuel (pos + 2)) = _
  simp only [top_bit_iff]

/-- The end of a text is found if enough words may be looked at. -/
theorem textEnd_eq_ok_iff (m : Memory) (fuel pos stop : Nat) : textEnd m fuel pos = .ok stop ↔
    ∃ bytes, IsText bytes ∧ m.Holds pos bytes ∧ stop = pos + bytes.length ∧
      bytes.length ≤ 2 * fuel := by
  constructor
  · intro h
    induction fuel generalizing pos with
    | zero => cases h
    | succ fuel ih =>
      cases hr : m.read16 pos with
      | error e =>
        rw [textEnd, hr] at h
        cases h
      | ok w =>
        rw [textEnd_step m fuel pos hr] at h
        have hheld := (m.holds_wordBytes pos w).2 hr
        by_cases hw : 0x8000 ≤ w
        · rw [if_pos hw] at h
          cases h
          exact ⟨_, .last w hw, hheld, rfl, by rw [length_wordBytes]; omega⟩
        · rw [if_neg hw] at h
          obtain ⟨rest, hrest, hheld', rfl, hlen⟩ := ih _ h
          refine ⟨_, .more w (UInt16.not_le.1 hw) hrest,
            (m.holds_append _ _ _).2 ⟨hheld, hheld'⟩, ?_, ?_⟩
          · rw [List.length_append, length_wordBytes]
            omega
          · rw [List.length_append, length_wordBytes]
            omega
  · rintro ⟨bytes, htext, hheld, rfl, hlen⟩
    induction htext generalizing fuel pos with
    | last w hw =>
      obtain ⟨fuel, rfl⟩ : ∃ k, fuel = k + 1 := ⟨fuel - 1, by rw [length_wordBytes] at hlen; omega⟩
      rw [textEnd_step m fuel pos ((m.holds_wordBytes pos w).1 hheld), if_pos hw]
      rfl
    | more w hw hrest ih =>
      rw [List.length_append, length_wordBytes] at hlen
      obtain ⟨fuel, rfl⟩ : ∃ k, fuel = k + 1 := ⟨fuel - 1, by omega⟩
      rw [m.holds_append] at hheld
      rw [textEnd_step m fuel pos ((m.holds_wordBytes pos w).1 hheld.1),
        if_neg (UInt16.not_le.2 hw)]
      refine (ih fuel _ hheld.2 (by omega)).trans ?_
      rw [List.length_append, Nat.add_assoc]

theorem reads_text : Reads text fun pos a bytes => a = .ofNat pos ∧ IsText bytes := by
  intro m pos a stop
  constructor
  · intro h
    unfold text at h
    cases ht : textEnd m m.size pos with
    | error e =>
      rw [ht] at h
      cases h
    | ok s =>
      rw [ht] at h
      cases h
      obtain ⟨bytes, htext, hheld, hstop, -⟩ := (textEnd_eq_ok_iff m _ _ _).1 ht
      exact ⟨bytes, ⟨rfl, htext⟩, hheld, hstop⟩
  · rintro ⟨bytes, ⟨rfl, htext⟩, hheld, rfl⟩
    have hsize := hheld.le_size htext.ne_nil
    rw [text, (textEnd_eq_ok_iff m m.size pos _).2 ⟨bytes, htext, hheld, rfl, by omega⟩]

/-! ## Instructions -/

theorem optional_number (present : Bool) (pos : Nat) (b : Option UInt8) (bytes : List UInt8) :
    WrittenIf (fun _ v bytes => bytes = [v.number]) present pos (b.map Variable.mk) bytes ↔
      WrittenIf (fun _ b bytes => bytes = [b]) present pos b bytes := by
  cases b <;> rfl

/-- Decoding reads just what the encoding is. -/
theorem reads_instruction (address : UInt32) : Reads (fun m => instruction m address)
    fun pos i bytes => i.address = address ∧ Instruction.Written pos i bytes := by
  intro m pos i stop
  dsimp only
  rw [instruction, reads_opening.bind_eq_ok_iff m]
  constructor
  · rintro ⟨o, head, ⟨hopens, -⟩, hhead, h⟩
    obtain ⟨operands, body, hoperands, hbody, h⟩ :=
      ((reads_operands o.kinds).bind_eq_ok_iff m _ _ _).1 h
    cases hopcode : Opcode.lookup o.cls o.number with
    | none =>
      rw [hopcode] at h
      cases h
    | some opcode =>
      rw [hopcode] at h
      obtain ⟨store, result, hstore, hresult, h⟩ :=
        ((reads_optional opcode.stores reads_byte).bind_eq_ok_iff m _ _ _).1 h
      obtain ⟨branch, jump, hbranch, hjump, h⟩ :=
        ((reads_optional opcode.branches reads_branch).bind_eq_ok_iff m _ _ _).1 h
      obtain ⟨text, inline, htext, hinline, h⟩ :=
        ((reads_optional opcode.hasText reads_text).bind_eq_ok_iff m _ _ _).1 h
      cases h
      obtain ⟨sequel, hlisted⟩ := Opcode.lookup_eq_some_iff.1 hopcode
      rw [Opcode.stores_eq, hlisted] at hstore
      rw [Opcode.branches_eq, hlisted] at hbranch
      rw [Opcode.hasText_eq, hlisted] at htext
      have hwritten : Instruction.Written pos
          ⟨address, _, opcode, operands, store.map Variable.mk, branch, text⟩ _ :=
        .mk hopens hlisted hoperands ((optional_number _ _ _ _).2 hstore) hbranch htext
      have hlength : pos + (head ++ body ++ result ++ jump ++ inline).length =
          pos + head.length + body.length + result.length + jump.length + inline.length := by
        simp only [List.length_append, ← Nat.add_assoc]
      rw [hlength] at hwritten
      refine ⟨_, ⟨rfl, hwritten⟩, ?_, hlength.symm⟩
      simp only [Memory.holds_append, List.length_append, ← Nat.add_assoc]
      exact ⟨⟨⟨⟨hhead, hbody⟩, hresult⟩, hjump⟩, hinline⟩
  · rintro ⟨bytes, ⟨rfl, hwritten⟩, hheld, rfl⟩
    cases hwritten with
    | @mk cls number kinds address opcode sequel operands store branch text head body result jump
        inline hopens hlisted hoperands hstore hbranch htext =>
      have hsequel : opcode.listing.sequel = sequel := by rw [hlisted]
      rw [← hsequel, ← Opcode.stores_eq] at hstore
      rw [← hsequel, ← Opcode.branches_eq] at hbranch
      rw [← hsequel, ← Opcode.hasText_eq] at htext
      simp only [Memory.holds_append, List.length_append, ← Nat.add_assoc] at hheld ⊢
      obtain ⟨⟨⟨⟨hhead, hbody⟩, hresult⟩, hjump⟩, hinline⟩ := hheld
      obtain ⟨first, hfirst⟩ := hopens.first
      refine ⟨⟨first, cls, number, kinds⟩, head, ⟨hopens, hfirst⟩, hhead, ?_⟩
      refine ((reads_operands kinds).bind_eq_ok_iff m _ _ _).2
        ⟨operands, body, hoperands, hbody, ?_⟩
      dsimp only
      rw [Opcode.lookup_eq_some_iff.2 ⟨sequel, hlisted⟩]
      refine ((reads_optional opcode.stores reads_byte).bind_eq_ok_iff m _ _ _).2
        ⟨store.map (·.number), result, ?_, hresult, ?_⟩
      · refine (optional_number _ _ _ _).1 ?_
        cases store <;> exact hstore
      refine ((reads_optional opcode.branches reads_branch).bind_eq_ok_iff m _ _ _).2
        ⟨branch, jump, hbranch, hjump, ?_⟩
      refine ((reads_optional opcode.hasText reads_text).bind_eq_ok_iff m _ _ _).2
        ⟨text, inline, htext, hinline, ?_⟩
      cases store <;> rfl

end Scan
end ZMachine
