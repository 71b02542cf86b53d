import ZMachine.Numeral
import ZMachine.Toml.Basic
import ZMachine.Toml.Tree

/-!
# Strings of TOML

Strings in quotes know escapes, strings in apostrophes do not; both may go over several lines
between three such marks.  A line break right after the opening marks does not count, and neither
does white space after a backslash at the end of a line.
-/

namespace ZMachine.Toml

/-! ## Escapes -/

def escapeWords : List String :=
  ["`b`", "`e`", "`f`", "`n`", "`r`", "`\\`", "`\"`", "`x`", "`u`", "`U`"]

/-- The character that an escape of one letter stands for. -/
def letterEscape? (c : Char) : Option Char :=
  match c with
  | '\x22' => some '\x22'
  | '\\' => some '\\'
  | 'b' => some '\x08'
  | 't' => some '\t'
  | 'n' => some '\n'
  | 'f' => some '\x0C'
  | 'r' => some '\r'
  | 'e' => some '\x1B'
  | _ => none

/-- The number of digits of an escape by number. -/
def digitCount? (c : Char) : Option Nat :=
  match c with
  | 'x' => some 2
  | 'u' => some 4
  | 'U' => some 8
  | _ => none

/-- The place where the last characters before another place start. -/
def placeOf (stop : Nat) (chars : List Char) : Span :=
  let start := stop - Text.byteLength chars
  ⟨start, start⟩

/-- The character whose number is written in hexadecimal digits. -/
def hexEscape (count stop : Nat) (chars : List Char) : Except Problem (Char × List Char) :=
  let digits := (chars.take count).takeWhile fun c => (Numeral.hexDigit? c).isSome
  let n := (digits.filterMap Numeral.hexDigit?).foldl (fun n d => 16 * n + d) 0
  if digits.length < count then
    .error (.wanting (placeOf stop (chars.drop digits.length)) "too few unicode value digits"
      ["unicode hexadecimal value"])
  else if n < 0xD800 ∨ (0xDFFF < n ∧ n < 0x110000) then .ok (Char.ofNat n, chars.drop count)
  else .error (.wanting (placeOf stop chars) "value is out of range" ["unicode hexadecimal value"])

/-- A backslash without an escape. -/
def missingEscape (stop : Nat) (chars : List Char) : Problem :=
  .wanting (placeOf stop chars) "missing escaped value" escapeWords

/-- An escape after its backslash. -/
def escaped (stop : Nat) (chars : List Char) : Except Problem (Char × List Char) :=
  match chars with
  | [] => .error (missingEscape stop chars)
  | c :: rest =>
    match letterEscape? c, digitCount? c with
    | some c, _ => .ok (c, rest)
    | none, some count => hexEscape count stop rest
    | none, none => .error (missingEscape stop chars)

/-! ## Strings over several lines -/

/-- The problem with a string, in words. -/
def Spelling.invalid : Spelling → String
  | bare => "invalid string"
  | basic => "invalid basic string"
  | basicLines => "invalid multi-line basic string"
  | literal => "invalid literal string"
  | literalLines => "invalid multi-line literal string"

/-- Passes over white space and line breaks. -/
def skipLines : List Char → List Char
  | '\n' :: rest => skipLines rest
  | '\r' :: '\n' :: rest => skipLines rest
  | c :: rest => if isSpace c then skipLines rest else c :: rest
  | [] => []

/-- What follows a backslash at the end of a line. -/
def folded (stop : Nat) (chars : List Char) : Except Problem (List Char) :=
  match chars.dropWhile isSpace with
  | '\n' :: rest => .ok (skipLines rest)
  | '\r' :: '\n' :: rest => .ok (skipLines rest)
  | '\r' :: rest => .error (loneReturn (placeOf stop rest).start)
  | rest => .error (.wanting (placeOf stop rest) Spelling.basicLines.invalid ["newline"])

/-- Without a line break at the start. -/
def dropLineBreak : List Char → List Char
  | '\n' :: rest => rest
  | '\r' :: '\n' :: rest => rest
  | chars => chars

/-! ## Contents -/

/-- What may stand in a string with escapes, in the words of a problem. -/
def Spelling.contentWords : Spelling → List String
  | basicLines => ["`\\`", "characters"]
  | _ => ["non-double-quote visible characters", "`\\`"]

/-- The problem with characters that may not stand in a string, before those that follow them. -/
def misfit (s : Spelling) (stop : Nat) (run rest : List Char) : Problem :=
  let behind := (placeOf stop rest).start
  .wanting ⟨behind - Text.byteLength run, behind⟩ s.invalid s.contentWords

/-- The rest of a string with escapes that ends at a place, after the characters so far in
reverse. -/
def unescape (s : Spelling) (stop : Nat) : (fuel : Nat) → (seen : List Char) → List Char →
    Except Problem String
  | fuel + 1, seen, c :: rest => do
    let lines := s = .basicLines
    match c, rest with
    | '\\', next :: _ =>
      if lines ∧ (isSpace next ∨ next = '\n' ∨ next = '\r') then
        unescape s stop fuel seen (← folded stop rest)
      else
        let (c, rest) ← escaped stop rest
        unescape s stop fuel (c :: seen) rest
    | '\\', [] => throw (missingEscape stop [])
    | '\r', '\n' :: rest =>
      if lines then unescape s stop fuel ('\n' :: seen) rest
      else throw (misfit s stop ['\r'] ('\n' :: rest))
    | _, _ =>
      if isPlain c ∨ (lines ∧ c = '\n') then unescape s stop fuel (c :: seen) rest
      else if lines ∧ c = '\r' then throw (loneReturn (placeOf stop rest).start)
      else
        let (run, rest) := (c :: rest).span fun c => !isPlain c && c ≠ '\n' && c ≠ '\r'
        throw (misfit s stop run rest)
  | _, seen, _ => .ok (.ofList seen.reverse)

/-- The rest of a string without escapes, which starts at a place, after the characters so far in
reverse. -/
def verbatim (place : Nat) (seen : List Char) : List Char → Except Problem String
  | [] => .ok (.ofList seen.reverse)
  | c :: rest =>
    if isPlain c then verbatim (place + c.utf8Size) (c :: seen) rest
    else .error (.wanting ⟨place, place⟩ Spelling.literal.invalid
      ["non-single-quote visible characters"])

/-- The same of a string over several lines.  A line break that starts with a carriage return counts
as a line feed. -/
def verbatimLines (place : Nat) (seen : List Char) : List Char → Except Problem String
  | [] => .ok (.ofList seen.reverse)
  | '\r' :: '\n' :: rest => verbatimLines (place + 2) ('\n' :: seen) rest
  | '\r' :: _ => .error (loneReturn (place + 1))
  | c :: rest =>
    if isPlain c ∨ c = '\n' then verbatimLines (place + c.utf8Size) (c :: seen) rest
    else .error (.wanting ⟨place, place⟩ Spelling.literalLines.invalid
      ["non-single-quote characters"])

/-! ## Strings -/

def Spelling.marks : Spelling → List Char
  | bare => []
  | basic => ['\x22']
  | basicLines => ['\x22', '\x22', '\x22']
  | literal => ['\x27']
  | literalLines => ['\x27', '\x27', '\x27']

/-- What stands between the marks of a string. -/
def Word.content (w : Word) : Except Problem (List Char) :=
  let marks := w.spelling.marks
  let inner := w.piece.chars.drop marks.length
  if marks.length ≤ inner.length ∧ marks.isSuffixOf inner then
    .ok (inner.take (inner.length - marks.length))
  else
    .error (.wanting w.piece.span.after w.spelling.invalid [s!"`{String.ofList (marks.take 1)}`"])

def Word.string (w : Word) : Except Problem String := do
  let content ← w.content
  let stop := w.piece.stop - w.spelling.marks.length
  match w.spelling with
  | .basicLines =>
    let content := dropLineBreak content
    unescape .basicLines stop (content.length + 1) [] content
  | .literalLines =>
    let content := dropLineBreak content
    verbatimLines (stop - Text.byteLength content) [] content
  | .literal => verbatim (w.piece.start + 1) [] content
  | s => unescape s stop (content.length + 1) [] content

/-! ## Parts of keys -/

/-- The characters of a key without quotes. -/
def isKeyChar (c : Char) : Bool :=
  c.isAlphanum || c == '_' || c == '-'

/-- What a key without quotes is made of, in the words of a problem. -/
def keyWords : List String :=
  ["letters", "numbers", "`-`", "`_`"]

/-- A key that is spelled over several lines. -/
def Word.longKey (w : Word) (kind : String) : Problem :=
  .wanting w.piece.span s!"keys cannot be multi-line {kind} strings"
    ["basic string", "literal string"]

def Word.name (w : Word) : Except Problem Name := do
  match w.spelling with
  | .bare =>
    if w.piece.chars.isEmpty then
      throw (.wanting w.piece.span "unquoted keys cannot be empty" keyWords)
    match firstFailing? isKeyChar w.piece.start w.piece.chars with
    | some (place, c) =>
      throw (.wanting ⟨place, place + c.utf8Size⟩ "invalid unquoted key" keyWords)
    | none => return ⟨.ofList w.piece.chars, w.piece.span⟩
  | .basicLines => throw (w.longKey "basic")
  | .literalLines => throw (w.longKey "literal")
  | _ => return ⟨← w.string, w.piece.span⟩

/-- The parts of a key before the last one, and the last one.  A key with too many parts is refused
at the first one that is too many. -/
def Key.names (key : Key) : Except Problem (List Name × Name) := do
  let names ← (key.take (maxDepth + 1)).mapM Word.name
  if maxDepth < key.length then throw ⟨"recursion limit", none⟩
  match names.getLast? with
  | some last => return (names.dropLast, last)
  | none => throw ⟨"missing key", none⟩

end ZMachine.Toml
