import ZMachine.Toml.Basic
import ZMachine.Toml.Moment
import ZMachine.Toml.Quoted

/-!
# Values without quotes

What a word without quotes is meant to be is told by its start: a truth value, a number, a date.
Only then is it looked at as a whole, so that a problem is told in the terms of what was meant.
-/

namespace ZMachine.Toml

/-- A number of bytes of a piece from a place within it on. -/
def Piece.part (p : Piece) (offset size : Nat) : Span :=
  ⟨p.start + offset, p.start + offset + size⟩

/-! ## Other words -/

/-- A word that is no value: a string whose marks are missing. -/
def unquoted (p : Piece) : Problem :=
  let openings : List (List Char) :=
    [['\x27', '\x27', '\x27'], ['\x22', '\x22', '\x22'], ['\x27'], ['\x22']]
  match openings.find? (·.isSuffixOf p.chars) with
  | some marks => .wanting p.span.before "missing opening quote" [s!"`{String.ofList marks}`"]
  | none => .wanting p.span "string values must be quoted" ["literal string"]

/-- A word that is meant to be one of a few. -/
def symbol (p : Piece) (name kind : String) (v : Value) : Except Problem Value :=
  if p.chars = name.toList then .ok v
  else if p.chars.contains ' ' then .error (unquoted p)
  else .error (.wanting p.span s!"invalid {kind}" [s!"`{name}`"])

/-! ## Digits -/

/-- Digits and underscores at an offset of a piece: what follows them, and its offset. -/
def digitRun (p : Piece) (offset : Nat) (zeroFirst : Bool) (message : String) (chars : List Char) :
    Except Problem (Nat × List Char) :=
  let (run, rest) := chars.span fun c => c.isDigit || c = '_'
  let count := (run.filter Char.isDigit).length
  if count = 0 then .error (.wanting (p.part offset 0) message ["digits"])
  else if 1 < count ∧ !zeroFirst ∧ run.head? = some '0' then
    .error (.wanting (p.part offset 1) "unexpected leading zero" [])
  else .ok (offset + run.length, rest)

def misplacedUnderscore (p : Piece) (offset : Nat) : Problem :=
  .wanting (p.part offset 1) "`_` may only go between digits" []

/-- Checks the underscores at an offset of a piece.  One behind another is the one to blame. -/
def underscoresFrom (p : Piece) (isDigit : Char → Bool) (before : Char) (offset : Nat) :
    List Char → Except Problem Unit
  | [] => .ok ()
  | c :: rest =>
    if c = '_' ∧ !(isDigit before && rest.head?.any fun next => isDigit next || next = '_') then
      .error (misplacedUnderscore p offset)
    else underscoresFrom p isDigit c (offset + c.utf8Size) rest

/-- Checks that every underscore has digits of a kind on both sides.  Those at the start and the end
are looked at first. -/
def checkUnderscores (p : Piece) (isDigit : Char → Bool) (offset : Nat) (chars : List Char) :
    Except Problem Unit :=
  if chars.head? = some '_' then .error (misplacedUnderscore p offset)
  else if chars.getLast? = some '_' then
    .error (misplacedUnderscore p (offset + Text.byteLength chars - 1))
  else underscoresFrom p isDigit ' ' offset chars

def isHexDigit (c : Char) : Bool :=
  (Numeral.hexDigit? c).isSome

/-- The number that digits of a base stand for; `none` if they are not digits of that base, or
there are none. -/
def basedValue? (base : Nat) (chars : List Char) : Option Nat := do
  let digits := chars.filter (· ≠ '_')
  let values ← digits.mapM Numeral.hexDigit?
  if values.isEmpty ∨ values.any (base ≤ ·) then none
  else return values.foldl (fun n d => base * n + d) 0

/-! ## Integers -/

/-- The magnitude of the least integer of 128 bits. -/
def integerBound : Int := 0x80000000000000000000000000000000

/-- An integer, if it fits into 128 bits, with or without a sign. -/
def boundedInteger (negative : Bool) (n : Option Nat) : Value :=
  .integer do
    let n ← n
    let n : Int := if negative then -n else n
    if -integerBound ≤ n ∧ n < 2 * integerBound then return n else none

/-- A decimal integer. -/
def decimalInteger (p : Piece) (negative : Bool) (offset : Nat) (chars : List Char) :
    Except Problem Value := do
  if chars.head? = some '0' ∧ 1 < chars.length then
    throw (.wanting (p.part offset 1) "unexpected leading zero" [])
  checkUnderscores p isHexDigit offset chars
  return boundedInteger negative (basedValue? 10 chars)

/-- An integer of another base after its sign and its first digit, which is zero. -/
def basedInteger (p : Piece) (signed : Bool) (offset base : Nat) (mark : Char) (kind : String)
    (digits : List Char) : Except Problem Value := do
  if digits.contains ' ' then throw (unquoted p)
  if signed then throw (.wanting (p.part 0 1) "integers with a prefix cannot be signed" [])
  if mark.isUpper then
    throw (.wanting (p.part offset 2) "radix must be lowercase" [s!"`0{mark.toLower}`"])
  let isDigit (c : Char) : Bool := (Numeral.hexDigit? c).any (· < base)
  match firstFailing? (fun c => isDigit c || c = '_') (p.start + offset + 2) digits with
  | some (place, _) => throw (.found ⟨place, place⟩ s!"invalid {kind} number")
  | none =>
    checkUnderscores p isHexDigit (offset + 2) digits
    return boundedInteger false (basedValue? base digits)

/-! ## Numbers with a fraction or an exponent -/

def isExponentMark (c : Char) : Bool :=
  c == 'e' || c == 'E'

/-- Checks the parts of a number with a fraction or an exponent. -/
def checkReal (p : Piece) (offset : Nat) (chars : List Char) : Except Problem Unit := do
  let (offset, rest) ← digitRun p offset false "invalid mantissa" chars
  let (offset, rest) ← match rest with
    | '.' :: rest => digitRun p (offset + 1) true "invalid fraction" rest
    | rest => pure (offset, rest)
  let (offset, rest) ← match rest with
    | mark :: sign :: digits =>
      if isExponentMark mark then
        if sign = '+' ∨ sign = '-' then digitRun p (offset + 2) true "invalid exponent" digits
        else digitRun p (offset + 1) true "invalid exponent" (sign :: digits)
      else pure (offset, rest)
    | [mark] =>
      if isExponentMark mark then digitRun p (offset + 1) true "invalid exponent" []
      else pure (offset, rest)
    | [] => pure (offset, rest)
  if !rest.isEmpty then
    throw (.wanting ⟨p.start + offset, p.stop⟩ "invalid float" [])
  checkUnderscores p Char.isDigit (p.chars.length - chars.length) chars

/-- The digits of a text as a number, other characters aside. -/
def digitsValue (chars : List Char) : Nat :=
  (chars.filter Char.isDigit).foldl (fun n c => 10 * n + (c.toNat - '0'.toNat)) 0

/-- A number with a fraction or an exponent after its sign. -/
def decimal (p : Piece) (negative : Bool) (offset : Nat) (chars : List Char) :
    Except Problem Value := do
  if chars.contains ' ' then throw (unquoted p)
  checkReal p offset chars
  let (mantissa, power) := chars.span (!isExponentMark ·)
  let part := (mantissa.dropWhile (· ≠ '.')).filter Char.isDigit
  let power : Int :=
    if power.contains '-' then -(digitsValue power : Int) else digitsValue power
  return .real (.decimal negative (digitsValue mantissa) (power - part.length))

/-! ## Words without quotes -/

/-- A date or a number after its sign, which starts at an offset. -/
def numeric (p : Piece) (negative : Bool) (offset : Nat) (chars : List Char) :
    Except Problem Value :=
  match chars.dropWhile Char.isDigit with
  | [] => decimalInteger p negative offset chars
  | first :: rest =>
    if first = '-' ∨ first = ':' then
      match checkMoment p.chars with
      | .ok _ => .ok .moment
      | .error message => .error (.found p.span message)
    else if (first :: rest).contains ' ' then .error (unquoted p)
    else if (first :: rest).any fun c => c = '.' ∨ isExponentMark c then
      decimal p negative offset chars
    else if first = '_' then decimalInteger p negative offset chars
    else .error (unquoted p)

/-- A word that starts with a zero, perhaps after a sign. -/
def zeroFirst (p : Piece) (signed negative : Bool) (offset : Nat) (chars : List Char) :
    Except Problem Value :=
  match chars with
  | _ :: mark :: digits =>
    match mark.toLower with
    | 'x' => basedInteger p signed offset 16 mark "hexadecimal" digits
    | 'o' => basedInteger p signed offset 8 mark "octal" digits
    | 'b' => basedInteger p signed offset 2 mark "binary" digits
    | 'd' => .error (.wanting (p.part offset 2) "redundant integer number prefix" [])
    | _ => numeric p negative offset chars
  | _ => decimalInteger p negative offset chars

/-- A word after its sign. -/
def signed (p : Piece) (negative : Bool) (chars : List Char) : Except Problem Value :=
  let special (name : String) (x : Real) : Except Problem Value :=
    if chars = name.toList then .ok (.real x)
    else .error (.wanting (p.part 1 (Text.byteLength chars)) "invalid float" [s!"`{name}`"])
  match chars.head? with
  | none => .error (unquoted p)
  | some c =>
    if c = '+' ∨ c = '-' then .error (.wanting (p.part 1 1) "redundant numeric sign" [])
    else if c = '0' then zeroFirst p true negative 1 chars
    else if c.isDigit ∨ c = '_' then numeric p negative 1 chars
    else if c = '.' then decimal p negative 0 p.chars
    else if c = 'i' ∨ c = 'I' then special "inf" (.infinite negative)
    else if c = 'n' ∨ c = 'N' then special "nan" .nan
    else .error (unquoted p)

/-- The value of a word without quotes. -/
def bareValue (p : Piece) : Except Problem Value :=
  match p.chars with
  | [] => .error (unquoted p)
  | c :: rest =>
    if c = '+' then signed p false rest
    else if c = '-' then signed p true rest
    else if c = '0' then zeroFirst p false false 0 p.chars
    else if c.isDigit ∨ c = '_' then numeric p false 0 p.chars
    else if c = '.' then decimal p false 0 p.chars
    else if c = 't' ∨ c = 'T' then symbol p "true" "boolean" (.bool true)
    else if c = 'f' ∨ c = 'F' then symbol p "false" "boolean" (.bool false)
    else if c = 'i' ∨ c = 'I' then symbol p "inf" "float" (.real (.infinite false))
    else if c = 'n' ∨ c = 'N' then symbol p "nan" "float" (.real .nan)
    else .error (unquoted p)

def Word.value (w : Word) : Except Problem Value := do
  match w.spelling with
  | .bare => bareValue w.piece
  | _ => return .text (← w.string)

end ZMachine.Toml
