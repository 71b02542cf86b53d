import ZMachine.Text.Case.Lower
import ZMachine.Text.Case.Context
import ZMachine.Text.Ranges

/-!
# Lower case

`lowerCase` puts a text into lower case character by character, with two exceptions to "one
character for one": the capital I with a dot becomes an i and a combining dot, and the capital
sigma becomes a final sigma at the end of a word.  A sigma ends a word when a character with case
stands before it and none after it, the characters without influence on case being passed over.
-/

namespace ZMachine.Case

open Text (inRanges)

/-- Whether a run holds the number. -/
def inRun (n : Nat) : Nat × Nat × Nat × Int → Bool
  | (first, last, step, _) => first ≤ n && n ≤ last && (n - first) % step == 0

/-- The lower-case counterpart of a character, or the character itself. -/
def lowerChar (c : Char) : Char :=
  match lowerRuns.find? (inRun c.toNat) with
  | some (_, _, _, shift) => Char.ofNat ((c.toNat : Int) + shift).toNat
  | none => c

/-- Whether the first character with influence on case has case. -/
def casedFollows (chars : List Char) : Bool :=
  match chars.dropWhile (inRanges ignorableRanges) with
  | c :: _ => inRanges casedRanges c
  | [] => false

/-- The form of a sigma between the characters before it, the nearest first, and those after it. -/
def lowerSigma (before after : List Char) : Char :=
  if casedFollows before && !casedFollows after then 'ς' else 'σ'

/-- The lower case of `rest`, which follows the characters `before`, the nearest first. -/
def lowerFrom (before : List Char) : List Char → List Char
  | [] => []
  | c :: rest =>
    if c = 'Σ' then lowerSigma before rest :: lowerFrom (c :: before) rest
    else if c = 'İ' then 'i' :: '\u0307' :: lowerFrom (c :: before) rest
    else lowerChar c :: lowerFrom (c :: before) rest

def lowerCase (text : String) : String :=
  .ofList (lowerFrom [] text.toList)

end ZMachine.Case
