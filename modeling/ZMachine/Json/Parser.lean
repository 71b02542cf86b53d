import ZMachine.Json.Basic
import ZMachine.Numeral
import ZMachine.Numeral.Double

/-!
# Reading JSON

`parse` reads one value with white space around it and nothing else.  It works on bytes: the text
of a string is put together from its bytes and escapes afterwards, and may turn out to be no text.
A number is an integer when it is written as one and fits in 64 bits; "-0" is not, because it is a
negative zero.  Other numbers are read as doubles: the first digits that fit in 64 bits are
multiplied by a power of ten, and the product must be finite.

    parse (the bytes of compact v) = some v        for values made of null, booleans, integers of
                                                   64 bits, strings, arrays and objects
-/

namespace ZMachine.Json

/-! ## White space and numbers -/

/-- The four kinds of white space. -/
def isSpace (b : UInt8) : Bool :=
  b == 0x20 || b == 0x0A || b == 0x0D || b == 0x09

def skipSpace (bytes : List UInt8) : List UInt8 :=
  bytes.dropWhile isSpace

def isDigit (b : UInt8) : Bool :=
  0x30 ≤ b && b ≤ 0x39

def digitsValue (digits : List UInt8) : Nat :=
  digits.foldl (fun n d => 10 * n + (d.toNat - 0x30)) 0

/-- The number that digits stand for, as a number of 64 bits and the count of digits that no longer
fitted into it: from the first such digit on, all are only counted. -/
def leading (digits : List UInt8) : Nat × Nat :=
  digits.foldl
    (fun (n, dropped) d =>
      let longer := 10 * n + (d.toNat - 0x30)
      if dropped = 0 ∧ longer < UInt64.size then (longer, 0) else (n, dropped + 1))
    (0, 0)

/-- A number of 64 bits with digits added behind it while they fit, and how many were. -/
def lengthen (n taken : Nat) : List UInt8 → Nat × Nat
  | [] => (n, taken)
  | d :: rest =>
    let longer := 10 * n + (d.toNat - 0x30)
    if longer < UInt64.size then lengthen longer (taken + 1) rest else (n, taken)

/-- Whether a number, made of its digits before and after the point and its exponent, is within the
range of a double. -/
def inRange (whole part : List UInt8) (power : Int) : Bool :=
  let (n, dropped) := leading whole
  let (n, taken) := lengthen n 0 part
  Numeral.productIsFinite n (power + dropped - taken).toNat

/-- The digits after a point, if there is one; `none` when none follows it. -/
def fraction : List UInt8 → Option (List UInt8 × List UInt8)
  | 0x2E :: rest =>
    let (digits, rest) := rest.span isDigit
    if digits.isEmpty then none else some (digits, rest)
  | bytes => some ([], bytes)

/-- The value of digits that must be there. -/
def someDigits (bytes : List UInt8) : Option (Nat × List UInt8) :=
  let (digits, rest) := bytes.span isDigit
  if digits.isEmpty then none else some (digitsValue digits, rest)

/-- The exponent, if there is one; `none` when its digits are missing. -/
def exponent : List UInt8 → Option (Option Int × List UInt8)
  | b :: rest =>
    if b = 0x65 ∨ b = 0x45 then
      match rest with
      | 0x2D :: rest => (someDigits rest).map fun (n, rest) => (some (-(n : Int)), rest)
      | 0x2B :: rest => (someDigits rest).map fun (n, rest) => (some (n : Int), rest)
      | rest => (someDigits rest).map fun (n, rest) => (some (n : Int), rest)
    else some (none, b :: rest)
  | [] => some (none, [])

/-- The digits before the point: a single zero, or digits that do not start with one. -/
def wholeDigits : List UInt8 → Option (List UInt8 × List UInt8)
  | 0x30 :: b :: rest => if isDigit b then none else some ([0x30], b :: rest)
  | bytes =>
    let (digits, rest) := bytes.span isDigit
    if digits.isEmpty then none else some (digits, rest)

/-- The magnitude of the least integer of 64 bits. -/
def int64Bound : Nat := 0x8000000000000000

/-- A number without its sign. -/
def unsignedNumber (negative : Bool) (bytes : List UInt8) : Option (Json × List UInt8) := do
  let (whole, rest) ← wholeDigits bytes
  let (part, rest) ← fraction rest
  let (power, rest) ← exponent rest
  let n := digitsValue whole
  let isInteger : Bool :=
    part.isEmpty && power.isNone && if negative then 0 < n && n ≤ int64Bound else n < UInt64.size
  if isInteger then return (integer (if negative then -n else n), rest)
  else return (real (inRange whole part (power.getD 0)), rest)

def number : List UInt8 → Option (Json × List UInt8)
  | 0x2D :: rest => unsignedNumber true rest
  | bytes => unsignedNumber false bytes

/-! ## Strings -/

/-- A part of a string: a byte, or a code unit written as four hexadecimal digits. -/
inductive Piece where
  | byte (b : UInt8)
  | unit (u : Nat)

/-- The number that four hexadecimal digits stand for. -/
def hexUnit (a b c d : UInt8) : Option Nat := do
  let digit (b : UInt8) := Numeral.hexDigit? (Char.ofNat b.toNat)
  return (((← digit a) * 16 + (← digit b)) * 16 + (← digit c)) * 16 + (← digit d)

/-- The byte that an escape of one letter stands for. -/
def letterEscape (b : UInt8) : Option UInt8 :=
  match b with
  | 0x22 => some 0x22
  | 0x5C => some 0x5C
  | 0x2F => some 0x2F
  | 0x62 => some 0x08
  | 0x66 => some 0x0C
  | 0x6E => some 0x0A
  | 0x72 => some 0x0D
  | 0x74 => some 0x09
  | _ => none

/-- The parts of a string up to its closing quote, after those seen so far in reverse. -/
def pieces (seen : List Piece) : List UInt8 → Option (List Piece × List UInt8)
  | [] => none
  | 0x22 :: rest => some (seen.reverse, rest)
  | 0x5C :: 0x75 :: a :: b :: c :: d :: rest =>
    match hexUnit a b c d with
    | some u => pieces (.unit u :: seen) rest
    | none => none
  | 0x5C :: b :: rest =>
    match letterEscape b with
    | some c => pieces (.byte c :: seen) rest
    | none => none
  | b :: rest => if b < 0x20 then none else pieces (.byte b :: seen) rest

/-- The bytes of a code unit that is a character by itself. -/
def unitBytes (u : Nat) : List UInt8 :=
  String.utf8EncodeChar (Char.ofNat u)

def isLeading (u : Nat) : Bool := 0xD800 ≤ u && u < 0xDC00

def isTrailing (u : Nat) : Bool := 0xDC00 ≤ u && u < 0xE000

/-- The bytes of a string after those so far; `lead` is the first half of a surrogate pair that
waits for the second.  `none` when a surrogate stands alone. -/
def assemble (out : ByteArray) (lead : Option Nat) : List Piece → Option ByteArray
  | [] => if lead.isSome then none else some out
  | .byte b :: rest => if lead.isSome then none else assemble (out.push b) none rest
  | .unit u :: rest =>
    match lead with
    | some l =>
      if isTrailing u then
        assemble ((unitBytes (0x10000 + (l - 0xD800) * 0x400 + (u - 0xDC00))).foldl .push out)
          none rest
      else none
    | none =>
      if isLeading u then assemble out (some u) rest
      else if isTrailing u then none
      else assemble ((unitBytes u).foldl .push out) none rest

def pieceText (ps : List Piece) : Option String :=
  (assemble .empty none ps).bind String.fromUTF8?

/-! ## Values -/

/-- The rest of the bytes after a word that must stand there. -/
def literal (value : Json) : (expected : List UInt8) → List UInt8 → Option (Json × List UInt8)
  | [], rest => some (value, rest)
  | e :: expected, b :: rest => if e = b then literal value expected rest else none
  | _ :: _, [] => none

/-- The rest of the bytes after a colon, with white space before it. -/
def colon (bytes : List UInt8) : Option (List UInt8) :=
  match skipSpace bytes with
  | 0x3A :: rest => some rest
  | _ => none

mutual

/-- A value, with white space before it. -/
def value : (fuel : Nat) → List UInt8 → Option (Json × List UInt8)
  | 0, _ => none
  | fuel + 1, bytes =>
    match skipSpace bytes with
    | 0x6E :: rest => literal .null [0x75, 0x6C, 0x6C] rest
    | 0x74 :: rest => literal (.bool true) [0x72, 0x75, 0x65] rest
    | 0x66 :: rest => literal (.bool false) [0x61, 0x6C, 0x73, 0x65] rest
    | 0x22 :: rest => (pieces [] rest).map fun (ps, rest) => (.text (pieceText ps), rest)
    | 0x5B :: rest =>
      match skipSpace rest with
      | 0x5D :: rest => some (.array [], rest)
      | rest => items fuel [] rest
    | 0x7B :: rest =>
      match skipSpace rest with
      | 0x7D :: rest => some (.object [], rest)
      | rest => members fuel [] rest
    | bytes => number bytes

/-- The items of an array from the next one on, after those seen so far in reverse. -/
def items : (fuel : Nat) → (seen : List Json) → List UInt8 → Option (Json × List UInt8)
  | 0, _, _ => none
  | fuel + 1, seen, bytes =>
    match value fuel bytes with
    | none => none
    | some (item, rest) =>
      match skipSpace rest with
      | 0x2C :: rest => items fuel (item :: seen) rest
      | 0x5D :: rest => some (.array (item :: seen).reverse, rest)
      | _ => none

/-- The members of an object from the next one on, after those seen so far in reverse. -/
def members : (fuel : Nat) → (seen : List (Option String × Json)) → List UInt8 →
    Option (Json × List UInt8)
  | 0, _, _ => none
  | fuel + 1, seen, bytes =>
    match skipSpace bytes with
    | 0x22 :: rest =>
      match pieces [] rest with
      | none => none
      | some (ps, rest) =>
        match (colon rest).bind (value fuel) with
        | none => none
        | some (item, rest) =>
          let seen := (pieceText ps, item) :: seen
          match skipSpace rest with
          | 0x2C :: rest => members fuel seen rest
          | 0x7D :: rest => some (.object seen.reverse, rest)
          | _ => none
    | _ => none

end

/-- Reads bytes that hold one value.  Every step but the first takes at least one byte, and the
nesting at most doubles the steps. -/
def parse (bytes : List UInt8) : Option Json :=
  match value (2 * bytes.length + 2) bytes with
  | some (v, rest) => if (skipSpace rest).isEmpty then some v else none
  | none => none

/-- Reads a text that holds one value. -/
def parseText (text : String) : Option Json :=
  parse text.toUTF8.toList

end ZMachine.Json
