import ZMachine.Text.Cluster.Table
import ZMachine.Text.Ranges

/-!
# Clusters

What a reader takes for one character may be several: a letter with its accents, a syllable, a flag,
a family.  `clusters` divides a text into them:

    (clusters chars).flatten = chars

Whether two neighbours belong together depends on the parts that both play and on little of what
stands before them, which `Context` keeps.
-/

namespace ZMachine.Text

namespace Cluster

/-- The part that a character plays in a cluster. -/
inductive Role where
  | carriageReturn
  | lineFeed
  | control
  /-- A mark that extends what stands before it. -/
  | extend
  /-- Such a mark that links the consonants around it. -/
  | linker
  /-- Such a mark that keeps consonants apart. -/
  | nonJoiner
  /-- Such a mark that joins pictographs. -/
  | joiner
  /-- Such a mark that takes room of its own. -/
  | spacing
  /-- A sign that extends what stands after it. -/
  | preceding
  | consonant
  | pictograph
  /-- A half of a flag. -/
  | flagHalf
  | leadingJamo
  | vowelJamo
  | trailingJamo
  /-- A syllable block without a final consonant. -/
  | openBlock
  /-- A syllable block with a final consonant. -/
  | closedBlock
  | other
deriving DecidableEq, Repr

/-- The parts of vowels in Hangul. -/
def isVowelJamo (n : Nat) : Bool :=
  (0x1160 ≤ n && n ≤ 0x11A7) || (0xD7B0 ≤ n && n ≤ 0xD7C6) || n == 0x16D63 ||
    (0x16D67 ≤ n && n ≤ 0x16D6A)

/-- The role of a part or a block of Hangul. -/
def hangulRole? (n : Nat) : Option Role :=
  if (0x1100 ≤ n ∧ n ≤ 0x115F) ∨ (0xA960 ≤ n ∧ n ≤ 0xA97C) then some .leadingJamo
  else if isVowelJamo n then some .vowelJamo
  else if (0x11A8 ≤ n ∧ n ≤ 0x11FF) ∨ (0xD7CB ≤ n ∧ n ≤ 0xD7FB) then some .trailingJamo
  else if 0xAC00 ≤ n ∧ n ≤ 0xD7A3 then
    some (if (n - 0xAC00) % 28 = 0 then .openBlock else .closedBlock)
  else none

/-- The role of a character that is in one of the tables. -/
def listedRole (c : Char) : Role :=
  if inRanges controlRanges c then .control
  else if inRanges extendRanges c then .extend
  else if inRanges linkerRanges c then .linker
  else if inRanges spacingRanges c then .spacing
  else if inRanges precedingRanges c then .preceding
  else if inRanges consonantRanges c then .consonant
  else if inRanges pictographRanges c then .pictograph
  else .other

def role (c : Char) : Role :=
  let n := c.toNat
  if n = 0x0D then .carriageReturn
  else if n = 0x0A then .lineFeed
  else if 0x20 ≤ n ∧ n < 0x7F then .other
  else if n = 0x200C then .nonJoiner
  else if n = 0x200D then .joiner
  else if 0x1F1E6 ≤ n ∧ n ≤ 0x1F1FF then .flagHalf
  else (hangulRole? n).getD (listedRole c)

/-- What is known of the text up to a character. -/
structure Context where
  /-- The role of that character. -/
  last : Role
  /-- It is a consonant, or marks follow one. -/
  onConsonant : Bool
  /-- A linker is among these marks. -/
  linked : Bool
  /-- It is a pictograph, or marks follow one. -/
  onPictograph : Bool
  /-- It joins a pictograph, with marks between them or not. -/
  joins : Bool
  /-- It is the first half of a flag. -/
  halfFlag : Bool
deriving DecidableEq, Repr

def Context.start : Context :=
  ⟨.control, false, false, false, false, false⟩

/-- The context after one more character. -/
def Context.next (x : Context) (r : Role) : Context where
  last := r
  onConsonant := match r with
    | .consonant => true
    | .extend | .linker | .joiner => x.onConsonant
    | _ => false
  linked := match r with
    | .linker => x.onConsonant
    | .extend | .joiner => x.linked
    | _ => false
  onPictograph := match r with
    | .pictograph => true
    | .extend | .linker | .nonJoiner => x.onPictograph
    | _ => false
  joins := r = .joiner && x.onPictograph
  halfFlag := r = .flagHalf && !x.halfFlag

/-- Whether a character belongs to the cluster of the one before it. -/
def Context.continues (x : Context) (r : Role) : Bool :=
  match x.last, r with
  | .carriageReturn, .lineFeed => true
  | .carriageReturn, _ | .lineFeed, _ | .control, _ => false
  | _, .carriageReturn | _, .lineFeed | _, .control => false
  | .leadingJamo, .leadingJamo | .leadingJamo, .vowelJamo => true
  | .leadingJamo, .openBlock | .leadingJamo, .closedBlock => true
  | .openBlock, .vowelJamo | .openBlock, .trailingJamo => true
  | .vowelJamo, .vowelJamo | .vowelJamo, .trailingJamo => true
  | .closedBlock, .trailingJamo | .trailingJamo, .trailingJamo => true
  | _, .extend | _, .linker | _, .nonJoiner | _, .joiner | _, .spacing => true
  | .preceding, _ => true
  | _, .consonant => x.linked
  | _, .pictograph => x.joins
  | _, .flagHalf => x.halfFlag
  | _, _ => false

/-- The clusters of the rest of a text, put before those that are done, the last one first.
`started` is the cluster that may go on, its last character first. -/
def cut (x : Context) (done : List (List Char)) (started : List Char) :
    List Char → List (List Char)
  | [] => if started.isEmpty then done else started.reverse :: done
  | c :: rest =>
    let r := role c
    if started.isEmpty ∨ x.continues r then cut (x.next r) done (c :: started) rest
    else cut (x.next r) (started.reverse :: done) [c] rest

end Cluster

def clusters (chars : List Char) : List (List Char) :=
  (Cluster.cut .start [] [] chars).reverse

end ZMachine.Text
