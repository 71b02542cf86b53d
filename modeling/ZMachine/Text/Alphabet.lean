import ZMachine.Text.Zscii

/-!
# Alphabets

A z-character from 6 to 31 is a letter of one of three alphabets of 26 letters.  The first two
letters of the third alphabet are fixed: the first opens an escape and stands for no letter, the
second is a newline.  A story may bring its own alphabets; otherwise the standard ones hold.

    letter a r z = the letter number z - 6 of alphabet r
    find a c = some (r, z)  →  letter a r z = c, and no earlier place but the fixed two holds c
-/

namespace ZMachine

/-- Three alphabets of 26 letters, one after another. -/
structure Alphabet where
  letters : Vector UInt8 78
deriving DecidableEq

namespace Alphabet

/-- Places of the escape and of the newline, the same in every alphabet table. -/
def fixedPlace (i : Nat) : Bool :=
  i == 52 || i == 53

/-- Alphabets with the given letters, except for the two fixed ones. -/
def ofFn (letterAt : Nat → UInt8) : Alphabet :=
  ⟨Vector.ofFn fun i =>
    if i.val = 52 then 0 else if i.val = 53 then 13 else letterAt i.val⟩

/-- The letters of a story that brings no alphabets of its own. -/
def standardLetters : List UInt8 :=
  ("abcdefghijklmnopqrstuvwxyz" ++ "ABCDEFGHIJKLMNOPQRSTUVWXYZ"
    ++ "  0123456789.,!?_#'\"/\\-:()").toList.map fun c => .ofNat c.toNat

/-- The alphabets of a story that brings none of its own. -/
def standard : Alphabet :=
  ofFn fun i => standardLetters.getD i 0

/-- The alphabets in effect. -/
def ofStory (m : Memory) (h : Header) : Except Fault Alphabet := do
  if h.alphabetTable = 0 then return standard
  let letters ← m.readBytes h.alphabetTable 78
  return ofFn fun i => letters.getD i 0

/-- The letter that z-character `z` stands for in alphabet `row`. -/
def letter (a : Alphabet) (row z : Nat) : UInt8 :=
  a.letters[26 * row + (z - 6)]?.getD 0

/-- The first place of a letter: its alphabet and its z-character. -/
def find (a : Alphabet) (c : UInt8) : Option (Nat × Nat) :=
  ((List.range 78).find? fun i => !fixedPlace i && a.letters[i]? == some c).map fun i =>
    (i / 26, i % 26 + 6)

end Alphabet
end ZMachine
