/-!
# Doubles

A double keeps 53 binary digits of a number.  `nearestDouble` rounds a natural number to them and
`Double.ofDecimal?` a decimal, in both cases a half to the even neighbour.  Numbers from
`finiteBound` on are too large to be finite.

    nearestDouble n = n                              for n < 2 ^ 53
    Double.ofDecimal? n 0 = some d  →  the value of d is nearestDouble n
-/

namespace ZMachine.Numeral

/-- The natural number that is nearest to a quotient, a half going to the even one. -/
def nearestQuotient (dividend divisor : Nat) : Nat :=
  let quotient := dividend / divisor
  let rest := dividend % divisor
  if divisor < 2 * rest ∨ (2 * rest = divisor ∧ quotient % 2 = 1) then quotient + 1 else quotient

/-- The natural number of at most 53 binary digits, zeros behind them aside, that is nearest. -/
def nearestDouble (n : Nat) : Nat :=
  let unit := Nat.pow 2 (n.log2 - 52)
  nearestQuotient n unit * unit

/-- The middle between the largest double and the power of two above it, which is even.  Numbers
from here on round to infinity. -/
def finiteBound : Nat :=
  Nat.pow 2 1024 - Nat.pow 2 970

/-- Whether the product of a natural number and a power of ten is finite, each of the three being
rounded to a double. -/
def productIsFinite (n power : Nat) : Bool :=
  n = 0 || (power ≤ 308 && nearestDouble n * nearestDouble (Nat.pow 10 power) < finiteBound)

/-- A finite double without a sign: the product of a number below `2 ^ 53` and a power of two. -/
structure Double where
  mantissa : Nat
  power : Int
deriving DecidableEq, Repr, Inhabited

namespace Double

/-- The least power of two that a double counts in. -/
def leastPower : Int := -1074

/-- The largest power of two that a double counts in. -/
def largestPower : Int := 971

/-- A quotient in units of a power of two. -/
def inUnits (dividend divisor : Nat) (power : Int) (divide : Nat → Nat → Nat) : Nat :=
  if 0 ≤ power then divide dividend (divisor * Nat.pow 2 power.toNat)
  else divide (dividend * Nat.pow 2 (-power).toNat) divisor

/-- The nearest double to a quotient, if it is finite. -/
def ofQuotient? (dividend divisor : Nat) : Option Double :=
  let guess : Int := (dividend.log2 : Int) - divisor.log2 - 52
  let whole := inUnits dividend divisor guess (· / ·)
  let power := max leastPower (if whole < Nat.pow 2 52 then guess - 1 else guess)
  let mantissa := inUnits dividend divisor power nearestQuotient
  let d : Double :=
    if mantissa = Nat.pow 2 53 then ⟨Nat.pow 2 52, power + 1⟩ else ⟨mantissa, power⟩
  if d.power ≤ largestPower then some d else none

/-- The nearest double to `digits * 10 ^ exponent`, if it is finite.  What is far out of range is
told by the number of digits alone. -/
def ofDecimal? (digits : Nat) (exponent : Int) : Option Double :=
  let top := (Nat.toDigits 10 digits).length + exponent
  if digits = 0 ∨ top < -330 then some ⟨0, leastPower⟩
  else if 310 < top then none
  else if 0 ≤ exponent then ofQuotient? (digits * Nat.pow 10 exponent.toNat) 1
  else ofQuotient? digits (Nat.pow 10 (-exponent).toNat)

end Double
end ZMachine.Numeral
