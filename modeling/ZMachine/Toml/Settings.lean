import ZMachine.Config
import ZMachine.Numeral.Shortest
import ZMachine.Text.Quoted
import ZMachine.Toml.Document

/-!
# Settings in TOML

A settings file gives some of the settings of the host at the top of a document.  Those it does not
give have their defaults, and names it should not have are passed over.  A setting of the wrong
type or out of range spoils the file, and so does a number that is too large, wherever it stands.
Names are looked at in alphabetical order.
-/

namespace ZMachine

namespace Toml

/-! ## What a value is -/

/-- A number with a fraction as it is shown, if it is not too large. -/
def Real.shown? : Real → Option String
  | decimal negative digits exponent =>
    (Numeral.Double.ofDecimal? digits exponent).map fun d =>
      (if negative then "-" else "") ++ d.text
  | infinite negative => some (if negative then "-inf" else "inf")
  | nan => some "NaN"

/-- The kind of an integer that needs more than 64 bits. -/
def wideInteger (n : Int) : String :=
  s!"integer `{n}` as " ++ if n < integerBound then "i128" else "u128"

/-- An integer as a message shows it. -/
def shownInteger (n : Int) : String :=
  if -(Int64.maxValue.toInt + 1) ≤ n ∧ n < UInt64.size then s!"integer `{n}`" else wideInteger n

/-- A value as a message shows it; the problem that it cannot be shown is that it is too large. -/
def Value.shown (v : Value) : Except String String :=
  match v with
  | .text s => .ok s!"string {Text.quoted s}"
  | .integer (some n) => .ok (shownInteger n)
  | .integer none => .error "integer number overflowed"
  | .real x => match x.shown? with
    | some digits => .ok s!"floating point `{digits}`"
    | none => .error "floating-point number overflowed"
  | .bool b => .ok s!"boolean `{b}`"
  | .moment | .table .. => .ok "map"
  | .array _ | .tables _ => .ok "sequence"

/-! ## Types -/

def Value.notOfType (v : Value) (span : Span) (type : String) : Problem :=
  match v.shown with
  | .ok shown => .found span s!"invalid type: {shown}, expected {type}"
  | .error message => .found span message

/-- A natural number below a bound of at most 64 bits. -/
def Value.natBelow (bound : Nat) (type : String) (span : Span) (v : Value) : Except Problem Nat :=
  match v with
  | .integer (some n) =>
    if 0 ≤ n ∧ n < bound then .ok n.toNat
    else if -(Int64.maxValue.toInt + 1) ≤ n ∧ n < UInt64.size then
      .error (.found span s!"invalid value: {shownInteger n}, expected {type}")
    else .error (v.notOfType span type)
  | v => .error (v.notOfType span type)

def Value.truth (span : Span) (v : Value) : Except Problem Bool :=
  match v with
  | .bool b => .ok b
  | v => .error (v.notOfType span "a boolean")

/-! ## Values that are passed over -/

/-- Members in alphabetical order. -/
def Members.sorted (ms : Members) : Members :=
  ms.mergeSort fun a b => a.1 ≤ b.1

/-- The values within a value, those of a table in alphabetical order. -/
def Value.parts : Value → List (Span × Value)
  | .array items => items
  | .table _ ms => (Members.sorted ms).map (·.2)
  | .tables items => items.reverse.map fun (span, ms) => (span, .table .headed ms)
  | _ => []

/-- Checks that no number within a value is too large.  The depth of a document is bounded. -/
def Value.check : (depth : Nat) → Span × Value → Except Problem Unit
  | 0, _ => .ok ()
  | depth + 1, (span, v) =>
    match v.shown with
    | .error message => .error (.found span message)
    | .ok _ => v.parts.forM (check depth)

end Toml

/-! ## Settings -/

def Config.takeMember (depth : Nat) (c : Config) :
    String × Toml.Span × Toml.Value → Except Toml.Problem Config
  | ("width", span, v) => do
    return { c with width := .ofNat (← v.natBelow UInt8.size "u8" span) }
  | ("timed", span, v) => do return { c with timed := ← v.truth span }
  | ("security_override", span, v) => do return { c with securityOverride := ← v.truth span }
  | ("undo_depth", span, v) => do
    return { c with undoDepth := ← v.natBelow UInt64.size "usize" span }
  | ("time_slice_ms", span, v) => do
    return { c with timeSliceMs := ← v.natBelow UInt64.size "u64" span }
  | (_, member) => do
    Toml.Value.check depth member
    return c

/-- Reads a settings file.  No value nests deeper than the document has characters. -/
def Config.ofToml (text : String) : Except Toml.Problem Config := do
  let ms ← Toml.parse text
  ms.sorted.foldlM (Config.takeMember (text.length + 1)) {}

end ZMachine
