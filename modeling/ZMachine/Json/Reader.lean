import ZMachine.Json.Basic

/-!
# Reading values out of JSON

Readers answer `none` when a value does not have the form asked for.  A record is written as an
object, whose members may stand in any order and beside unknown ones, or as an array of its fields
in order.  A field is required, or optional with a default; a known member must not occur twice.

    field? r "width" = the value of that field, `none` if it is not written
-/

namespace ZMachine.Json

/-! ## Simple values -/

/-- A natural number below a bound. -/
def natBelow (bound : Nat) : Json → Option Nat
  | integer n => if 0 ≤ n ∧ n < bound then some n.toNat else none
  | _ => none

def uint8? (v : Json) : Option UInt8 :=
  (v.natBelow UInt8.size).map .ofNat

def uint16? (v : Json) : Option UInt16 :=
  (v.natBelow UInt16.size).map .ofNat

def uint32? (v : Json) : Option UInt32 :=
  (v.natBelow UInt32.size).map .ofNat

/-- A natural number that fits in 64 bits. -/
def size? (v : Json) : Option Nat :=
  v.natBelow UInt64.size

def int16? : Json → Option Int16
  | integer n => if -32768 ≤ n ∧ n < 32768 then some (.ofInt n) else none
  | _ => none

def bool? : Json → Option Bool
  | bool b => some b
  | _ => none

def string? : Json → Option String
  | text s => s
  | _ => none

/-- `null`, or a value that `read` takes. -/
def option? {α : Type} (read : Json → Option α) : Json → Option (Option α)
  | null => some none
  | v => (read v).map some

/-- An array of values that `read` takes. -/
def list? {α : Type} (read : Json → Option α) : Json → Option (List α)
  | array items => items.mapM read
  | _ => none

/-! ## Records -/

/-- The fields of a record that were written, by name. -/
abbrev Fields := List (String × Json)

/-- The members of an object with text as names; `none` when a name is no text. -/
def textMembers : List (Option String × Json) → Option Fields
  | [] => some []
  | (some name, v) :: rest => (textMembers rest).map ((name, v) :: ·)
  | (none, _) :: _ => none

/-- Whether a name occurs at most once. -/
def atMostOnce (name : String) (fields : Fields) : Bool :=
  (fields.filter (·.1 == name)).length ≤ 1

/-- The members of an object, in which none of the known names may occur twice. -/
def objectFields (known : List String) (members : List (Option String × Json)) : Option Fields := do
  let fields ← textMembers members
  if known.all fun name => atMostOnce name fields then return fields else none

/-- A record with the known fields, of which an array must hold the first `required`. -/
def record? (known : List String) (required : Nat) : Json → Option Fields
  | object members => objectFields known members
  | array items =>
    if required ≤ items.length ∧ items.length ≤ known.length then some (known.zip items) else none
  | _ => none

/-- A field that must be written. -/
def need {α : Type} (fields : Fields) (name : String) (read : Json → Option α) : Option α :=
  (fields.lookup name).bind read

/-- A field with a default. -/
def want {α : Type} (fields : Fields) (name : String) (default : α) (read : Json → Option α) :
    Option α :=
  match fields.lookup name with
  | some v => read v
  | none => some default

/-! ## Values that must be read to the end -/

mutual

/-- Whether a value is made of texts and finite numbers and nests fewer than `depth` levels. -/
def readable : (depth : Nat) → Json → Bool
  | _, text none => false
  | _, real finite => finite
  | depth, array items => 1 < depth && readableItems (depth - 1) items
  | depth, object members => 1 < depth && readableMembers (depth - 1) members
  | _, _ => true

def readableItems (depth : Nat) : List Json → Bool
  | [] => true
  | item :: rest => readable depth item && readableItems depth rest

def readableMembers (depth : Nat) : List (Option String × Json) → Bool
  | [] => true
  | (name, v) :: rest => name.isSome && readable depth v && readableMembers depth rest

end

/-- How deep a text may nest where all of it is read. -/
def maxDepth : Nat := 128

/-! ## Choices -/

/-- A choice among names without contents, written as a string or as an object with one member
that is `null`. -/
def unitChoice? : Json → Option String
  | text s => s
  | object [(name, null)] => name
  | _ => none

end ZMachine.Json
