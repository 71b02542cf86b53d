import ZMachine.Numeral.Double
import ZMachine.Toml.Problem

/-!
# TOML documents

A document is a table of named values.  Tables are opened in three ways, and each may be done once:
by a header of their own, as a part of a dotted key, or in braces.  A table that was only named on
the way to another one is implied; it may still be given a header.  Headers in double brackets add
a table to an array of tables, and paths go through the last table of such an array.

Every value is kept with its place in the document.  Of dates and times only that they are there.
-/

namespace ZMachine.Toml

inductive TableKind where
  | implied
  | headed
  | dotted
  /-- In braces: nothing may be added. -/
  | closed
deriving DecidableEq, Repr

/-- A number with a fraction or an exponent. -/
inductive Real where
  /-- `digits * 10 ^ exponent`, perhaps with a minus sign. -/
  | decimal (negative : Bool) (digits : Nat) (exponent : Int)
  | infinite (negative : Bool)
  | nan
deriving DecidableEq, Repr, Inhabited

inductive Value where
  | text (s : String)
  /-- An integer; `none` if it does not fit into 128 bits. -/
  | integer (n : Option Int)
  | real (x : Real)
  | bool (b : Bool)
  /-- A date, a time or both. -/
  | moment
  | array (items : List (Span × Value))
  | table (kind : TableKind) (members : List (String × Span × Value))
  /-- An array of tables, the last one first, each with its header. -/
  | tables (items : List (Span × List (String × Span × Value)))
deriving Inhabited

abbrev Members := List (String × Span × Value)

/-- A part of a key, and where it stands. -/
structure Name where
  text : String
  span : Span
deriving DecidableEq, Repr, Inhabited

def Value.kindName : Value → String
  | text _ => "string"
  | integer _ => "integer"
  | real _ => "float"
  | bool _ => "boolean"
  | moment => "datetime"
  | array _ | tables _ => "array"
  | table .closed _ => "inline table"
  | table .. => "table"

/-! ## Paths -/

/-- What a path belongs to. -/
inductive Route where
  /-- The key of a header. -/
  | header
  /-- A dotted key. -/
  | dotted
  /-- A dotted key in braces. -/
  | inBraces
deriving DecidableEq, Repr

/-- How a table is opened that is missing on a path. -/
def Route.opens : Route → TableKind
  | header => .implied
  | _ => .dotted

/-! ## Problems of names -/

/-- A name that was given before. -/
def Name.duplicate (name : Name) : Problem :=
  .found name.span "duplicate key"

/-- A path that leads through a value to which nothing can be added. -/
def Name.blocked (name : Name) (v : Value) : Problem :=
  .found name.span s!"cannot extend value of type {v.kindName} with a dotted key"

/-! ## Tables -/

namespace Members

def replace (name : Name) (v : Value) (ms : Members) : Members :=
  ms.map fun (n, span, old) => if n = name.text then (n, span, v) else (n, span, old)

def add (name : Name) (span : Span) (v : Value) (ms : Members) : Members :=
  ms ++ [(name.text, span, v)]

/-- Changes the table at a path.  Tables missing on the way are added.  `isDotted` tells whether the
table that the path starts from is dotted itself, and the change is told the same of the table it is
made to. -/
def within {α : Type} (route : Route) (change : Bool → Members → Except Problem (α × Members)) :
    (path : List Name) → (isDotted : Bool) → Members → Except Problem (α × Members)
  | [], isDotted, ms => change isDotted ms
  | name :: path, _, ms =>
    match ms.lookup name.text with
    | none => do
      let (a, inner) ← within route change path (route.opens = .dotted) []
      return (a, ms.add name name.span (.table route.opens inner))
    | some (_, .table kind inner) =>
      if kind = .closed ∧ route ≠ .inBraces then .error (name.blocked (.table kind inner))
      else if kind = .closed ∨ (kind = .headed ∧ route ≠ .header) then .error name.duplicate
      else do
        let (a, inner) ← within route change path (kind = .dotted) inner
        return (a, ms.replace name (.table kind inner))
    | some (_, .tables ((span, inner) :: earlier)) => do
      let (a, inner) ← within route change path false inner
      return (a, ms.replace name (.tables ((span, inner) :: earlier)))
    | some (_, v) => .error (name.blocked v)

/-- Puts a value under a dotted key, which has the given parts before its last one.  A table that
was opened otherwise gets nothing by a dotted key, and a dotted one only by such a key. -/
def insert (route : Route) (path : List Name) (last : Name) (span : Span) (v : Value)
    (ms : Members) : Except Problem Members := do
  let dotted := !path.isEmpty
  let put (isDotted : Bool) (ms : Members) : Except Problem (Unit × Members) :=
    if isDotted ≠ dotted ∨ (ms.lookup last.text).isSome then .error last.duplicate
    else .ok ((), ms.add last span v)
  return (← within route put path false ms).2

/-- Takes out the table that a header is for, with the members it has already. -/
def takeTable (path : List Name) (last : Name) (ms : Members) :
    Except Problem (Members × Members) :=
  let take (_ : Bool) (ms : Members) : Except Problem (Members × Members) :=
    match ms.lookup last.text with
    | none => .ok ([], ms)
    | some (_, .table .implied inner) => .ok (inner, ms.filter (·.1 ≠ last.text))
    | some _ => .error last.duplicate
  within .header take path false ms

/-- Puts back the table of a header. -/
def putTable (ms : Members) (path : List Name) (last : Name) (span : Span) (table : Members) :
    Except Problem Members := do
  let put (_ : Bool) (ms : Members) : Except Problem (Unit × Members) :=
    if (ms.lookup last.text).isSome then .error last.duplicate
    else .ok ((), ms.add last span (.table .headed table))
  return (← within .header put path false ms).2

/-- Adds a table to an array of tables. -/
def pushTable (ms : Members) (path : List Name) (last : Name) (span : Span) (table : Members) :
    Except Problem Members := do
  let push (_ : Bool) (ms : Members) : Except Problem (Unit × Members) :=
    match ms.lookup last.text with
    | none => .ok ((), ms.add last span (.tables [(span, table)]))
    | some (_, .tables items) => .ok ((), ms.replace last (.tables ((span, table) :: items)))
    | some _ => .error last.duplicate
  return (← within .header push path false ms).2

end Members
end ZMachine.Toml
