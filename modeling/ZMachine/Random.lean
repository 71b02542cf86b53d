/-!
# Random numbers

The generator of a story is in one of three modes, told apart by its seed.  Seed 0 is the baseline:
numbers nobody can foretell, from a generator seeded by `Entropy` on its first use.  Seeds below
1000 count cyclically, and larger seeds give a stream that is the same each time:

    the i-th number after seed s, 0 < s < 1000, for range r     ((i - 1) % s) % r + 1

A number drawn for a positive range `r` is at least 1 and at most `r`.
-/

namespace ZMachine

/-! ## The generator -/

/-- The state of xoshiro256++. -/
structure Xoshiro where
  s0 : UInt64
  s1 : UInt64
  s2 : UInt64
  s3 : UInt64
deriving DecidableEq, Repr, Inhabited

namespace Xoshiro

def rotateLeft (x : UInt64) (k : UInt64) : UInt64 :=
  x <<< k ||| x >>> (64 - k)

/-- A half word turned right. -/
def rotateRight32 (x : UInt32) (k : UInt32) : UInt32 :=
  x >>> k ||| x <<< ((32 - k) % 32)

/-- The state of the seeding sequence after one step. -/
def seedStep (state : UInt64) : UInt64 :=
  state * 6364136223846793005 + 11634580027462260723

def seedOutput (state : UInt64) : UInt32 :=
  rotateRight32 (((state >>> 18) ^^^ state) >>> 27).toUInt32 (state >>> 59).toUInt32

/-- Two outputs of the seeding sequence as one word, the first one low, and the state after. -/
def seedWord (state : UInt64) : UInt64 × UInt64 :=
  let first := seedStep state
  let second := seedStep first
  ((seedOutput first).toUInt64 ||| (seedOutput second).toUInt64 <<< 32, second)

/-- The generator that a number seeds. -/
def ofSeed (seed : UInt64) : Xoshiro :=
  let (s0, state) := seedWord seed
  let (s1, state) := seedWord state
  let (s2, state) := seedWord state
  let (s3, _) := seedWord state
  ⟨s0, s1, s2, s3⟩

/-- The next 64 bits. -/
def next (g : Xoshiro) : UInt64 × Xoshiro :=
  let output := rotateLeft (g.s0 + g.s3) 23 + g.s0
  let s2 := g.s2 ^^^ g.s0
  let s3 := g.s3 ^^^ g.s1
  (output, ⟨g.s0 ^^^ s3, g.s1 ^^^ s2, s2 ^^^ (g.s1 <<< 17), rotateLeft s3 45⟩)

/-- The largest low half of a product that is not redrawn, so that every number of the range is
equally likely. -/
def zone (range : Nat) : Nat :=
  UInt32.size - 1 - (UInt32.size - range) % range

/-- A number from 1 to `range`.  A draw whose product with the range falls outside the zone is
repeated, at most `redraws` times. -/
def draw (range : Nat) : (redraws : Nat) → Xoshiro → Nat × Xoshiro
  | redraws, g =>
    let (bits, g') := g.next
    let product := (bits >>> 32).toNat * range
    match redraws with
    | 0 => (1 + product / UInt32.size, g')
    | redraws + 1 =>
      if product % UInt32.size ≤ zone range then (1 + product / UInt32.size, g')
      else draw range redraws g'

end Xoshiro

/-- A supply of seeds that nobody can foretell. -/
structure Entropy where
  state : UInt64
deriving DecidableEq, Repr, Inhabited

/-- A freshly seeded generator, and the supply after it. -/
def Entropy.generator (e : Entropy) : Xoshiro × Entropy :=
  (.ofSeed e.state, ⟨e.state + 1⟩)

/-! ## The generator of a story -/

structure Random where
  seed : Nat := 0
  counter : Nat := 0
  generator : Option Xoshiro := none
deriving DecidableEq, Repr, Inhabited

namespace Random

/-- Seeds below this one count cyclically. -/
def predictableLimit : Nat := 1000

/-- The most times that one number is redrawn.  A number can be redrawn without end; this bound is what
makes drawing a function.  A range of 16 bits rejects less than one draw in 2 ^ 16, so that 64 of them
in a row do not come up. -/
def maxRedraws : Nat := 64

/-- Whether the numbers are those nobody can foretell. -/
def isBaseline (r : Random) : Bool :=
  r.seed == 0

/-- The generator after it was given a seed. -/
def ofSeed (seed : Nat) : Random where
  seed
  generator := if predictableLimit ≤ seed then some (.ofSeed (.ofNat seed)) else none

/-- Draws a number from 1 to `range`. -/
def next (r : Random) (entropy : Entropy) (range : Nat) : Nat × Random × Entropy :=
  if 0 < r.seed ∧ r.seed < predictableLimit then
    let counter := r.counter % r.seed + 1
    ((counter - 1) % range + 1, { r with counter }, entropy)
  else
    let (generator, entropy) := match r.generator with
      | some g => (g, entropy)
      | none => entropy.generator
    let (n, generator) := generator.draw (max 1 range) maxRedraws
    (n, { r with generator := some generator }, entropy)

end Random
end ZMachine
