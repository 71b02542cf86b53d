/-!
# Written numbers

Addresses are written in lower-case hexadecimal with at least a given number of digits;
everything else is written in decimal.

    hex 5 0x700 = "00700"        hex 2 0x1234 = "1234"
-/

namespace ZMachine.Numeral

/-- Puts zeros in front until there are `width` digits; a longer numeral is kept whole. -/
def padded (width : Nat) (digits : List Char) : String :=
  String.ofList (List.replicate (width - digits.length) '0' ++ digits)

/-- Lower-case hexadecimal, at least `width` digits. -/
def hex (width n : Nat) : String :=
  padded width (Nat.toDigits 16 n)

/-- Decimal, at least `width` digits. -/
def decimal (width n : Nat) : String :=
  padded width (Nat.toDigits 10 n)

/-- An address as messages show it: `0x` and at least five hexadecimal digits. -/
def address (n : Nat) : String :=
  "0x" ++ hex 5 n

/-- The value of a hexadecimal digit of either case. -/
def hexDigit? (c : Char) : Option Nat :=
  if '0' ≤ c ∧ c ≤ '9' then some (c.toNat - '0'.toNat)
  else if 'a' ≤ c ∧ c ≤ 'f' then some (c.toNat - 'a'.toNat + 10)
  else if 'A' ≤ c ∧ c ≤ 'F' then some (c.toNat - 'A'.toNat + 10)
  else none

end ZMachine.Numeral
