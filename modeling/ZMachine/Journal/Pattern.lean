import ZMachine.Numeral
import ZMachine.Text.Blank
import ZMachine.Text.Letter

/-!
# Patterns

A filter may ask for the value of a field by a regular expression.  No value is ever looked at, but
a filter with a malformed pattern is not used, so `Pattern.isValid` tells whether a text is one:

    literals and escapes     x  \.  \n  \x41
    assertions               ^  $  \A  \z
    classes                  .  [a-z&&[^aeiou]]  [[:alpha:]]
    repetitions              x*  x+  x?  x*?
    groups                   (x)  (?<name>x)  (?i:x)  (?i)
    choices                  x|y

Patterns are about characters unless `(?-u)` makes them about bytes.  What would need tables of
characters, such as `\d`, `\p` and `\b`, is only there for bytes; there, on the other hand, nothing
may stand for a part of a character.  Repetitions with a count are left out: their closing brace
would end the field.

Groups, repetitions, classes and rows of two or more parts nest at most `maxHeight` deep.
-/

namespace ZMachine.Pattern

/-- How a part of a pattern is read. -/
structure Mode where
  /-- Blanks and comments are passed over. -/
  spaced : Bool := false
  /-- It is about characters and not about bytes. -/
  characters : Bool := true
deriving DecidableEq, Repr

/-- Passes over blanks and comments where they mean nothing. -/
def skipFrom (inComment : Bool) : List Char → List Char
  | c :: rest =>
    if inComment then skipFrom (c ≠ '\n') rest
    else if Text.isBlank c then skipFrom false rest
    else if c = '#' then skipFrom true rest
    else c :: rest
  | [] => []

def skip (mode : Mode) (chars : List Char) : List Char :=
  if mode.spaced then skipFrom false chars else chars

/-! ## Heights -/

/-- How deep a pattern may nest. -/
def maxHeight : Nat := 250

/-- Parts beside each other: parts that follow each other, choices, or the items of a class. -/
structure Row where
  count : Nat := 0
  /-- The height of the highest part. -/
  height : Nat := 0
deriving DecidableEq, Repr

/-- Puts a part of a height to a row. -/
def Row.add (row : Row) (height : Nat) : Row :=
  ⟨row.count + 1, max row.height height⟩

/-- The height of a row.  A single part stands for itself. -/
def Row.whole (row : Row) : Nat :=
  if row.count ≤ 1 then row.height else row.height + 1

/-! ## Escapes -/

inductive Escape where
  | literal (c : Char)
  /-- A byte that is no character by itself. -/
  | byte (c : Char)
  /-- Digits, blanks or letters; or all others. -/
  | kind (negated : Bool)
  /-- The start or end of a word, or its absence. -/
  | boundary
  /-- The start or end of the text. -/
  | anchor
deriving DecidableEq, Repr

def hexDigits (mode : Mode) : (count value : Nat) → List Char → Option (Nat × List Char)
  | 0, value, chars => some (value, chars)
  | _ + 1, _, [] => none
  | count + 1, value, c :: rest =>
    match Numeral.hexDigit? c with
    | some d => hexDigits mode count (16 * value + d) (skip mode rest)
    | none => none

/-- A character that is written by its number. -/
def numbered (mode : Mode) (count : Nat) (chars : List Char) : Option (Escape × List Char) := do
  let (n, rest) ← hexDigits mode count 0 (skip mode chars)
  if count = 2 ∧ 0x80 ≤ n then return (.byte (.ofNat n), rest)
  else if n < 0xD800 ∨ (0xDFFF < n ∧ n < 0x110000) then return (.literal (.ofNat n), rest)
  else none

/-- An escape after its backslash. -/
def escape (mode : Mode) : List Char → Option (Escape × List Char)
  | [] => none
  | c :: rest =>
    if c = 'x' then numbered mode 2 rest
    else if c = 'u' then numbered mode 4 rest
    else if c = 'U' then numbered mode 8 rest
    else if c ∈ ['d', 's', 'w'] then some (.kind false, rest)
    else if c ∈ ['D', 'S', 'W'] then some (.kind true, rest)
    else if c ∈ ['b', 'B', '<', '>'] then some (.boundary, rest)
    else if c ∈ ['A', 'z'] then some (.anchor, rest)
    else if c ∈ ['a', 'f', 't', 'n', 'r', 'v'] then some (.literal c, rest)
    else if c.isAlphanum ∨ 0x80 ≤ c.toNat then none
    else some (.literal c, rest)

/-- Whether an escape may stand by itself. -/
def Escape.isAllowed (mode : Mode) : Escape → Bool
  | literal _ | anchor => true
  | byte _ => mode.characters
  | kind negated => !mode.characters && !negated
  | boundary => !mode.characters

/-! ## Classes -/

/-- The names of classes of characters below 128. -/
def classNames : List String :=
  ["alnum", "alpha", "ascii", "blank", "cntrl", "digit", "graph", "lower", "print", "punct",
    "space", "upper", "word", "xdigit"]

/-- A named class after its opening bracket: whether it is negated, and what follows it. -/
def namedClass? : List Char → Option (Bool × List Char)
  | ':' :: rest =>
    let (negated, rest) := match rest with
      | '^' :: rest => (true, rest)
      | rest => (false, rest)
    match rest.span (· ≠ ':') with
    | (name, ':' :: ']' :: rest) =>
      if classNames.contains (.ofList name) then some (negated, rest) else none
    | _ => none
  | _ => none

/-- What is known of the classes that are open. -/
structure Classes where
  /-- The items of the innermost one, or those after the last operator in it. -/
  row : Row := {}
  /-- The height of what stands before that operator. -/
  left : Option Nat := none
  /-- The same of those around it. -/
  outer : List (Row × Option Nat) := []

/-- The height of what a class holds. -/
def Classes.body (cs : Classes) : Nat :=
  match cs.left with
  | some height => max height cs.row.whole + 1
  | none => cs.row.whole

/-- The minus signs at the start of a class, which are meant literally. -/
def leadingSigns (mode : Mode) (row : Row) : (fuel : Nat) → List Char → Row × List Char
  | fuel + 1, '-' :: rest => leadingSigns mode (row.add 0) fuel (skip mode rest)
  | _, chars => (row, chars)

/-- The start of a class after its opening bracket.  A closing bracket right there is meant
literally. -/
def classStart (mode : Mode) (chars : List Char) : Option (Row × List Char) :=
  let items (chars : List Char) : Row × List Char :=
    match leadingSigns mode {} chars.length chars with
    | (⟨0, _⟩, ']' :: rest) => (⟨1, 0⟩, skip mode rest)
    | start => start
  match skip mode chars with
  | '^' :: rest => if mode.characters then some (items (skip mode rest)) else none
  | chars => some (items chars)

/-- An item of a class, with its character if it is one. -/
def classItem (mode : Mode) : List Char → Option (Option Char × List Char)
  | '\\' :: rest => do
    let (e, rest) ← escape mode rest
    match e with
    | .literal c => if mode.characters ∨ c.toNat < 0x80 then return (some c, rest) else none
    | .byte c => if mode.characters then return (some c, rest) else none
    | .kind negated => if mode.characters ∨ negated then none else return (none, rest)
    | .boundary | .anchor => none
  | c :: rest => if mode.characters ∨ c.toNat < 0x80 then some (some c, rest) else none
  | [] => none

/-- An item or a range of items. -/
def classRange (mode : Mode) (chars : List Char) : Option (List Char) := do
  let (first, rest) ← classItem mode chars
  match skip mode rest with
  | '-' :: after =>
    match skip mode after with
    | ']' :: _ | '-' :: _ => return skip mode rest
    | after =>
      let (last, rest) ← classItem mode after
      if (← first) ≤ (← last) then return rest else none
  | rest => return rest

/-- The height of a class and what follows it. -/
def classBody (mode : Mode) : (fuel : Nat) → Classes → List Char → Option (Nat × List Char)
  | 0, _, _ => none
  | fuel + 1, cs, chars =>
    let item := { cs with row := cs.row.add 0 }
    match skip mode chars with
    | '[' :: rest =>
      match namedClass? rest with
      | some (negated, rest) =>
        if negated ∧ !mode.characters then none else classBody mode fuel item rest
      | none => do
        let (row, rest) ← classStart mode rest
        classBody mode fuel ⟨row, none, (cs.row, cs.left) :: cs.outer⟩ rest
    | ']' :: rest => match cs.outer with
      | [] => some (cs.body + 1, rest)
      | (row, left) :: outer => classBody mode fuel ⟨row.add (cs.body + 1), left, outer⟩ rest
    | '&' :: '&' :: rest | '-' :: '-' :: rest | '~' :: '~' :: rest =>
      classBody mode fuel ⟨{}, some cs.body, cs.outer⟩ rest
    | chars => (classRange mode chars).bind (classBody mode fuel item)

/-- A class after its opening bracket. -/
def classHeight (mode : Mode) (chars : List Char) : Option (Nat × List Char) := do
  let (row, rest) ← classStart mode chars
  classBody mode (rest.length + 1) { row } rest

/-! ## Groups -/

/-- Where a pattern stands: the choices before the last bar, and the parts after it. -/
structure Place where
  mode : Mode := {}
  choices : Row := {}
  parts : Row := {}

/-- The height of what stands before a place. -/
def Place.body (place : Place) : Nat :=
  (place.choices.add place.parts.whole).whole

/-- What is known while a pattern is read. -/
structure State where
  place : Place := {}
  /-- Where the groups that are open stand, the innermost first. -/
  outer : List Place := []
  /-- The names of groups. -/
  names : List String := []
  /-- The height of what was just read, if it can be repeated. -/
  last : Option Nat := none

def State.mode (st : State) : Mode :=
  st.place.mode

def State.openGroup (st : State) (mode : Mode) : State :=
  { st with place := { mode }, outer := st.place :: st.outer, last := none }

/-- Adds a part of a height. -/
def State.add (st : State) (height : Nat) : State :=
  { st with place.parts := st.place.parts.add height, last := some height }

/-- Repeats a part of a height, which was just read. -/
def State.again (st : State) (height : Nat) : State :=
  let parts := st.place.parts
  { st with
    place.parts := { parts with height := max parts.height (height + 1) }
    last := some (height + 1) }

/-- Whether a group may have a name. -/
def isName : List Char → Bool
  | [] => false
  | first :: rest =>
    (first = '_' || Text.isAlphabetic first) &&
      rest.all fun c => Text.isAlphanumeric c || "_.[]".toList.contains c

/-- Opens a group that starts with its name. -/
def openNamed (st : State) (chars : List Char) : Option (State × List Char) :=
  match chars.span (· ≠ '>') with
  | (name, '>' :: rest) =>
    if isName name ∧ !st.names.contains (.ofList name) then
      some ({ st.openGroup st.mode with names := .ofList name :: st.names }, rest)
    else none
  | _ => none

/-- A mode with a flag turned on or off. -/
def Mode.set (mode : Mode) (flag : Char) (on : Bool) : Mode :=
  if flag = 'x' then { mode with spaced := on }
  else if flag = 'u' then { mode with characters := on }
  else mode

/-- The flags of a group, or for the rest of one.  `seen` holds those before, the last one first;
a minus sign among them turns off those after it. -/
def flags (st : State) (mode : Mode) (seen : List Char) : List Char → Option (State × List Char)
  | [] => none
  | c :: rest =>
    if c = ':' then if seen.head? = some '-' then none else some (st.openGroup mode, rest)
    else if c = ')' then
      if seen.isEmpty ∨ seen.head? = some '-' then none
      else some ({ st.add 0 with place.mode := mode, last := none }, rest)
    else if seen.contains c ∨ !"-imsUuRx".toList.contains c then none
    else flags st (mode.set c (!seen.contains '-')) (c :: seen) rest

/-- Opens a group after its opening parenthesis, or sets flags. -/
def group (st : State) (chars : List Char) : Option (State × List Char) :=
  match skip st.mode chars with
  | '?' :: '!' :: _ | '?' :: '=' :: _ | '?' :: '<' :: '!' :: _ | '?' :: '<' :: '=' :: _ => none
  | '?' :: 'P' :: '<' :: rest | '?' :: '<' :: rest => openNamed st rest
  | '?' :: rest => flags st st.mode [] rest
  | chars => some (st.openGroup st.mode, chars)

/-! ## Patterns -/

/-- The next part of a pattern, which starts with a character. -/
def part (st : State) (c : Char) (rest : List Char) : Option (State × List Char) :=
  match c with
  | '(' => group st rest
  | ')' => match st.outer with
    | place :: outer => some ({ st with place, outer }.add (st.place.body + 1), rest)
    | [] => none
  | '|' =>
    let choices := st.place.choices.add st.place.parts.whole
    some ({ st with place := ⟨st.mode, choices, {}⟩, last := none }, rest)
  | '[' => do
    let (height, rest) ← classHeight st.mode rest
    return (st.add height, rest)
  | '?' | '*' | '+' => do
    let st := st.again (← st.last)
    match rest with
    | '?' :: rest => return (st, rest)
    | rest => return (st, rest)
  | '\x7b' => none
  | '\\' => do
    let (e, rest) ← escape st.mode rest
    if e.isAllowed st.mode then return (st.add 0, rest) else none
  | '.' => if st.mode.characters then some (st.add 0, rest) else none
  | _ => some (st.add 0, rest)

def readFrom : (fuel : Nat) → State → List Char → Bool
  | 0, _, _ => false
  | fuel + 1, st, chars =>
    match skip st.mode chars with
    | [] => st.outer.isEmpty && st.place.body ≤ maxHeight
    | c :: rest =>
      match part st c rest with
      | some (st, rest) => readFrom fuel st rest
      | none => false

def isValid (text : String) : Bool :=
  readFrom (text.length + 1) {} text.toList

end ZMachine.Pattern
