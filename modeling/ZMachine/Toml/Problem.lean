import ZMachine.Text.Extent

/-!
# Problems of a document

A problem says what is wrong and where.  Its report shows the line and marks the place:

    TOML parse error at line 2, column 3
      |
    2 | x=1e400
      |   ^^^^^
    floating-point number overflowed
-/

namespace ZMachine.Toml

/-- A part of a document, from one byte up to another. -/
structure Span where
  start : Nat
  stop : Nat
deriving DecidableEq, Repr, Inhabited

/-- The place where a part starts. -/
def Span.before (s : Span) : Span :=
  ⟨s.start, s.start⟩

/-- The place where a part ends. -/
def Span.after (s : Span) : Span :=
  ⟨s.stop, s.stop⟩

/-- The part that starts with one part and ends with another. -/
def Span.through (first last : Span) : Span :=
  ⟨first.start, last.stop⟩

/-- What is wrong with a document. -/
structure Problem where
  message : String
  /-- Where it is, unless it is too large to show. -/
  span : Option Span
deriving DecidableEq, Repr, Inhabited

namespace Problem

/-- A problem at a place. -/
def found (span : Span) (message : String) : Problem :=
  ⟨message, some span⟩

/-- A problem at a place where one of several things was expected. -/
def wanting (span : Span) (message : String) (expected : List String) : Problem :=
  let expected := if expected.isEmpty then ["nothing"] else expected
  ⟨message ++ ", expected " ++ ", ".intercalate expected, some span⟩

/-! ## The report -/

/-- A line of a document: its number, the byte it starts with, and its characters with the line
feed at its end. -/
structure Line where
  number : Nat
  start : Nat
  chars : List Char

/-- The line that holds a byte, of the lines from a given one on. -/
def lineAt (place number start : Nat) (seen : List Char) : List Char → Line
  | [] => ⟨number, start, seen.reverse⟩
  | '\n' :: rest =>
    let chars := ('\n' :: seen).reverse
    let stop := start + Text.byteLength chars
    if place < stop ∨ rest.isEmpty then ⟨number, start, chars⟩
    else lineAt place (number + 1) stop [] rest
  | c :: rest => lineAt place number start (c :: seen) rest

/-- How many characters stand before a byte of a line; bytes are counted where it is not the last
byte of a character. -/
def Line.column (l : Line) (place : Nat) : Nat :=
  let before := place - l.start
  match Text.takeBytes? (before + 1) l.chars with
  | some chars => chars.length - 1
  | none => before

/-- The characters of a line without the line feed. -/
def Line.content (l : Line) : List Char :=
  l.chars.filter (· ≠ '\n')

/-- The place of a part in a document, and the part marked. -/
def frame (text : List Char) (span : Span) : String :=
  let last := Text.byteLength text - 1
  let place := min span.start last
  let line := lineAt place 1 0 [] text
  let column := line.column place + (span.start - place)
  let size := min (span.stop - span.start) (Text.byteLength line.content - column)
  let number := toString line.number
  let gutter := "".pushn ' ' number.length
  s!"TOML parse error at line {number}, column {column + 1}\n{gutter} |\n{number} | " ++
    .ofList line.content ++ s!"\n{gutter} | " ++ "".pushn ' ' column ++ "".pushn '^' (max 1 size) ++
    "\n"

def report (text : String) (p : Problem) : String :=
  let place := match p.span with
    | some span => frame text.toList span
    | none => ""
  place ++ p.message ++ "\n"

end Problem
end ZMachine.Toml
