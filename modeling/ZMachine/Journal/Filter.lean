import ZMachine.Journal
import ZMachine.Journal.Pattern
import ZMachine.Text.Extent

/-!
# Log filters

A filter decides which records are written.  It is a list of directives separated by commas:

    debug                    this level for all targets
    zvm::engine              everything from targets that start so
    zvm::engine=info         this level for targets that start so
    zvm[{pc}]=debug          only records with this field
    zvm[{pc=7}]=debug        only in a span in which this field has this value
    zvm[name]=level          only in a span of this name

There are no spans, so the last two enable nothing.  Of the directives that a record falls under,
the one with the longest target decides; of equally long ones one with a field; and of those the one
with the greatest field name, or the last.  A level is a name in either case or a number from 0,
off, to 5.
-/

namespace ZMachine

/-- Lets records through, up to a rank; 0 lets nothing through. -/
structure Directive where
  /-- What their targets start with. -/
  target : Option String := none
  /-- A field they must have. -/
  field : Option String := none
  rank : Nat
deriving DecidableEq, Repr, Inhabited

/-- Which records are written. -/
abbrev Filter := List Directive

namespace Filter

/-- Why a filter cannot be read. -/
inductive Defect where
  | malformed
  /-- Blanks in front of a directive made a cut fall within a character. -/
  | brokenCharacter
deriving DecidableEq, Repr

/-! ## Levels and fields -/

/-- The names of the levels by rank. -/
def levelNames : List String :=
  ["off", "error", "warn", "info", "debug", "trace"]

/-- The number that decimal digits, perhaps after a plus sign, stand for. -/
def number? (text : String) : Option Nat :=
  let digits := match text.toList with
    | '+' :: rest => rest
    | chars => chars
  if digits.isEmpty ∨ digits.any (!·.isDigit) then none
  else some (digits.foldl (fun n c => 10 * n + (c.toNat - '0'.toNat)) 0)

/-- The rank of a level as it is written; nothing stands for errors alone. -/
def level? (text : String) : Option Nat :=
  match number? text with
  | some n => if n < levelNames.length then some n else none
  | none => if text.isEmpty then some 1 else levelNames.idxOf? text.toLower

/-- The level after a target; nothing stands for everything. -/
def targetLevel (text : String) : Except Defect Nat :=
  if text.isEmpty then .ok 5
  else match level? text with
    | some rank => .ok rank
    | none => .error .malformed

/-- Whether digits follow an exponent mark, perhaps after a sign, or nothing stands here. -/
def isPower : List Char → Bool
  | [] => true
  | mark :: rest =>
    let digits := match rest with
      | '+' :: rest => rest
      | '-' :: rest => rest
      | rest => rest
    (mark = 'e' || mark = 'E') && !digits.isEmpty && digits.all Char.isDigit

/-- Whether this is a number without a sign: digits with a point before, between or after them and
perhaps an exponent, or the name of a number that has no digits. -/
def isUnsignedNumber (chars : List Char) : Bool :=
  let (whole, rest) := chars.span Char.isDigit
  let (part, rest) := match rest with
    | '.' :: rest => rest.span Char.isDigit
    | rest => ([], rest)
  ["inf", "infinity", "nan"].contains (String.ofList chars).toLower ||
    (!(whole.isEmpty && part.isEmpty) && isPower rest)

/-- Whether a field may be asked to have a value: a number or what is matched by a pattern.  A
number that is no pattern starts with a plus sign. -/
def isValue (text : String) : Bool :=
  (match text.toList with
    | '+' :: rest => isUnsignedNumber rest
    | _ => false) || Pattern.isValid text

/-- A field between braces: its name, and whether it is asked to have a value. -/
def field (text : String) : Except Defect (String × Bool) :=
  match text.splitOn "=" with
  | [name] => .ok (name, false)
  | name :: value :: _ => if isValue value then .ok (name, true) else .error .malformed
  | [] => .error .malformed

/-! ## Directives

A directive is understood without the blanks around it, but its parts are cut out of the text with
them: blanks in front shift the parts, and blanks behind belong to the last one. -/

def cut (text : List Char) (place bytes : Nat) : Except Defect String :=
  match (Text.dropBytes? place text).bind (Text.takeBytes? bytes) with
  | some part => .ok (.ofList part)
  | none => .error .brokenCharacter

def cutFrom (text : List Char) (place : Nat) : Except Defect String :=
  match Text.dropBytes? place text with
  | some part => .ok (.ofList part)
  | none => .error .brokenCharacter

def isStart (c : Char) : Bool :=
  Text.isAlphanumeric c || c == '_' || c == ':' || c == '-'

/-- The level at the end of a directive, of which `rest` is left at a place. -/
def lastLevel (text : List Char) (place : Nat) (rest : List Char) : Except Defect Nat :=
  match rest with
  | [] => .ok 5
  | '=' :: _ => do targetLevel (← cutFrom text (place + 1))
  | _ => .error .malformed

/-- The rest of a directive after an opening bracket, of which `rest` is left at a place.  The
inner option is empty if it is about spans. -/
def bracket (text : List Char) (target : Option String) (place : Nat) (rest : List Char) :
    Except Defect (Option Directive) := do
  let (name, rest) := rest.span fun c => c ≠ ']' ∧ c ≠ '\x7b'
  let behind := place + Text.byteLength name
  match rest with
  | [] => throw .malformed
  | ']' :: rest =>
    let _ ← cut text place (Text.byteLength name)
    let _ ← lastLevel text (behind + 1) rest
    return none
  | _ :: rest =>
    let _ ← cut text place (Text.byteLength name)
    let (inner, rest) := rest.span (· ≠ '\x7d')
    let size := Text.byteLength inner
    match rest with
    | [] => throw .malformed
    | _ :: rest =>
      let inner ← cut text (behind + 1) size
      if inner.isEmpty then throw .malformed
      let (fieldName, hasValue) ← field inner
      match rest with
      | ']' :: rest =>
        let rank ← lastLevel text (behind + size + 3) rest
        return if name.isEmpty ∧ !hasValue then some ⟨target, some fieldName, rank⟩ else none
      | _ => throw .malformed

/-- A directive; the inner option is empty if it is about spans. -/
def directive (text : List Char) : Except Defect (Option Directive) :=
  let trimmed := Text.trimEnd (Text.trimStart text)
  match trimmed with
  | [] => .error .malformed
  | '[' :: rest => bracket text none 1 rest
  | first :: _ =>
    if !isStart first then .error .malformed
    else
      let (target, rest) := trimmed.span fun c => c ≠ '=' ∧ c ≠ '['
      let size := Text.byteLength target
      match rest with
      | '=' :: rest => do
        let target ← cut text 0 size
        return some ⟨target, none, ← lastLevel text size ('=' :: rest)⟩
      | _ :: rest => do bracket text (← cut text 0 size) (size + 1) rest
      | [] => match level? (.ofList text) with
        | some rank => .ok (some ⟨none, none, rank⟩)
        | none => .ok (some ⟨some (.ofList text), none, 5⟩)

/-! ## Filters -/

/-- Reads a filter.  One without any directive lets errors through. -/
def parse (text : String) : Except Defect Filter :=
  match (text.splitOn ",").filter (· ≠ "") with
  | [] => .ok [⟨none, none, 1⟩]
  | pieces => do return (← pieces.mapM fun piece => directive piece.toList).filterMap id

/-- The filter where none was given. -/
def standard : Filter :=
  [⟨"zvm::engine", none, 4⟩, ⟨"zvm::persist", none, 4⟩, ⟨"zvm", none, 3⟩]

end Filter

namespace Directive

/-- Whether a directive is about a kind of record. -/
def covers (d : Directive) (r : Record) : Bool :=
  d.target.all (·.isPrefixOf r.target) && d.field.all r.fields.contains

/-- How closely a target is told; having none is the least. -/
def closeness (d : Directive) : Nat :=
  match d.target with
  | some target => target.utf8ByteSize + 1
  | none => 0

/-- Whether one directive is left aside where a later one is there too. -/
def yieldsTo (d later : Directive) : Bool :=
  if d.closeness ≠ later.closeness then d.closeness < later.closeness
  else match d.field, later.field with
    | some name, some other => name ≤ other
    | some _, none => false
    | none, _ => true

end Directive

namespace Filter

/-- The directive that decides on a kind of record. -/
def decisive (f : Filter) (r : Record) : Option Directive :=
  (f.filter (·.covers r)).foldl
    (fun found d => match found with
      | some best => if best.yieldsTo d then some d else some best
      | none => some d)
    none

def allows (f : Filter) (r : Record) : Bool :=
  match f.decisive r with
  | some d => r.level.rank ≤ d.rank
  | none => false

/-! ## The switch -/

/-- Whether the value of the switch turns the log on. -/
def isOn (value : String) : Bool :=
  let value := (Text.trim value).toLower
  value ≠ "" ∧ value ≠ "0" ∧ value ≠ "false" ∧ value ≠ "off"

/-- The filter that the value of the switch holds, unless it only turns the log on. -/
def ofSwitch? (value : String) : Option String :=
  let value := Text.trim value
  if ["1", "true", "on"].contains value.toLower then none else some value

/-- The filter for the values of the switch and of the variable with a common filter, if the log is
on.  A malformed filter is not used. -/
def ofVariables (switch common : Option String) : Except Defect (Option Filter) :=
  match switch with
  | some value =>
    if !isOn value then .ok none
    else match (ofSwitch? value).or common with
      | none => .ok (some standard)
      | some text => match parse text with
        | .ok f => .ok (some f)
        | .error .malformed => .ok (some standard)
        | .error .brokenCharacter => .error .brokenCharacter
  | none => .ok none

end Filter
end ZMachine
