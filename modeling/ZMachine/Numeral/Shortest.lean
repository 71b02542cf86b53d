import ZMachine.Numeral.Double

/-!
# The shortest decimal

A double is written with as few digits as tell it from all others: of the decimals that round to it,
one with the fewest digits, and of those the nearest.

    shortest ⟨m, q⟩ = (d, e)  →  Double.ofDecimal? d e = some ⟨m, q⟩
-/

namespace ZMachine.Numeral

/-- A number `count * 2 ^ power * 10 ^ shift`, made a quotient. -/
def quotientOf (count : Nat) (power shift : Int) : Nat × Nat :=
  (count * Nat.pow 2 power.toNat * Nat.pow 10 shift.toNat,
    Nat.pow 2 (-power).toNat * Nat.pow 10 (-shift).toNat)

/-- How a natural number compares to a quotient. -/
def compareQuotient (n : Nat) (q : Nat × Nat) : Ordering :=
  compare (n * q.2) q.1

namespace Double

/-- The lower and the upper end of the decimals that round to a double, in quarters of its unit. -/
def ends (d : Double) : Nat × Nat :=
  let m := d.mantissa
  let below := if m = Nat.pow 2 52 ∧ leastPower < d.power then 1 else 2
  (4 * m - below, 4 * m + 2)

/-- Whether `n * 10 ^ exponent` rounds to a double. -/
def isNear (d : Double) (n : Nat) (exponent : Int) : Bool :=
  let (low, high) := d.ends
  let low := compareQuotient n (quotientOf low (d.power - 2) (-exponent))
  let high := compareQuotient n (quotientOf high (d.power - 2) (-exponent))
  if d.mantissa % 2 = 0 then low ≠ .lt && high ≠ .gt else low = .gt && high = .lt

/-- The decimal that counts in a power of ten and rounds to a double, if there is one. -/
def decimal? (d : Double) (exponent : Int) : Option (Nat × Int) :=
  let (dividend, divisor) := quotientOf d.mantissa d.power (-exponent)
  let lower := dividend / divisor
  let nearest := nearestQuotient dividend divisor
  let farther := if nearest = lower then lower + 1 else lower
  if d.isNear nearest exponent then some (nearest, exponent)
  else if d.isNear farther exponent then some (farther, exponent)
  else none

/-- The exponent of the first digit of a double that is not zero. -/
def topExponent (d : Double) : Int :=
  let isReached (e : Int) : Bool :=
    compareQuotient 1 (quotientOf d.mantissa d.power (-e)) ≠ .gt
  ((List.range 634).map fun (i : Nat) => (309 : Int) - i).find? isReached |>.getD 0

/-- The shortest decimal that rounds to a double: a natural number and the exponent of the power of
ten it counts in.  Seventeen digits are always enough. -/
def shortest (d : Double) : Nat × Int :=
  if d.mantissa = 0 then (0, 0)
  else
    let top := d.topExponent
    ((List.range 19).findSome? fun (n : Nat) => d.decimal? (top + 1 - n)).getD (0, 0)

/-- A double in digits without an exponent, with at least one of them behind the point. -/
def text (d : Double) : String :=
  let (n, exponent) := d.shortest
  let digits := Nat.toDigits 10 n
  if 0 ≤ exponent then .ofList (digits ++ List.replicate exponent.toNat '0') ++ ".0"
  else
    let places := (-exponent).toNat
    let digits := List.replicate (places + 1 - digits.length) '0' ++ digits
    let (whole, part) := digits.splitAt (digits.length - places)
    .ofList whole ++ "." ++ .ofList part

end Double
end ZMachine.Numeral
