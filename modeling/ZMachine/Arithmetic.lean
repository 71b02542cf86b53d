import ZMachine.Memory.Basic

/-!
# Arithmetic on words

Words are numbers modulo 65536; where the sign matters they are read in two's complement.  Sums,
differences and products do not depend on the reading.

    quotient a b     the signed quotient, rounded toward zero
    remainder a b    what is left, with the sign of a
    shift            to the left for a positive count, to the right for a negative one
-/

namespace ZMachine.Arithmetic

/-- The quotient of signed numbers, rounded toward zero. -/
def quotient (a b : UInt16) : UInt16 :=
  .ofInt ((signed a).tdiv (signed b))

/-- The remainder that goes with the quotient. -/
def remainder (a b : UInt16) : UInt16 :=
  .ofInt ((signed a).tmod (signed b))

/-- Shifts a word by a signed count.  In an arithmetic shift to the right the sign moves in from
the left.  A count of sixteen or more leaves no bit of the word: the result is zero, or all ones
for a negative number in an arithmetic shift. -/
def shift (arithmetic : Bool) (value places : UInt16) : UInt16 :=
  let n := signed places
  if 0 ≤ n ∧ n < 16 then value <<< .ofInt n
  else if -16 < n ∧ n < 0 then
    if arithmetic then .ofInt (signed value >>> (-n).toNat) else value >>> .ofInt (-n)
  else if arithmetic && signed value < 0 then 0xFFFF
  else 0

end ZMachine.Arithmetic
