/-!
# Ranges of characters

Properties of characters are kept as inclusive ranges of code points in ascending order.
-/

namespace ZMachine.Text

def inRanges (ranges : List (Nat × Nat)) (c : Char) : Bool :=
  ranges.any fun (first, last) => first ≤ c.toNat && c.toNat ≤ last

end ZMachine.Text
