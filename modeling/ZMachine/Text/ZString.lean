import ZMachine.Text.Alphabet

/-!
# Z-strings

A z-string is a run of words, the last one marked by its top bit; each word holds three
z-characters of five bits.  Reading goes from left to right:

    0            a space
    1, 2, 3      with the next z-character, an abbreviation; abbreviations do not nest
    4, 5         the next letter is of the second or third alphabet
    5, 6         the next two z-characters are a ZSCII code of ten bits
    6 .. 31      a letter

A construct cut off by the end of the string is dropped.

Words of a dictionary are written in a fixed form of nine z-characters: `dictionaryForm` spells
each character as a letter or an escape, cuts after nine and fills up with 5.
-/

namespace ZMachine.ZString

/-! ## Words and z-characters -/

/-- The three z-characters of a word. -/
def zchars (w : UInt16) : List Nat :=
  [w.toNat / 1024 % 32, w.toNat / 32 % 32, w.toNat % 32]

/-- The word with three z-characters; the last word of a z-string has its top bit set. -/
def packWord (last : Bool) (a b c : Nat) : UInt16 :=
  .ofNat ((if last then 0x8000 else 0) + a % 32 * 1024 + b % 32 * 32 + c % 32)

def isLast (w : UInt16) : Bool :=
  w &&& 0x8000 != 0

/-- The z-characters from `pos` to the end of the z-string there, after those collected so far
in reverse, and the address after it.  The size of the memory bounds the number of words. -/
def readZchars (m : Memory) : (fuel pos : Nat) → (seen : List Nat) →
    Except OutOfRange (List Nat × Nat)
  | 0, pos, _ => .error ⟨pos, 2, m.size⟩
  | fuel + 1, pos, seen => do
    let w ← m.read16 pos
    let seen := (zchars w).reverse ++ seen
    if isLast w then return (seen.reverse, pos + 2) else readZchars m fuel (pos + 2) seen

/-- The z-characters of the z-string at an address, and the address after it. -/
def read (m : Memory) (address : Nat) : Except OutOfRange (List Nat × Nat) :=
  readZchars m m.size address []

/-! ## Reading text -/

/-- The code of an escape. -/
def escapeCode (high low : Nat) : UInt16 :=
  .ofNat (high * 32 + low)

/-- The text of z-characters after the text `out`, the next letter being of alphabet `row`.
`abbreviation` expands the abbreviation with a given number. -/
def expand (a : Alphabet) (extra : ExtraChars) (abbreviation : Nat → Except Fault String) :
    (row : Nat) → (out : String) → List Nat → Except Fault String
  | _, out, [] => return out
  | _, out, 0 :: rest => expand a extra abbreviation 0 (out.push ' ') rest
  | _, out, 4 :: rest => expand a extra abbreviation 1 out rest
  | _, out, 5 :: rest => expand a extra abbreviation 2 out rest
  | row, out, z :: rest =>
    if z < 4 then
      match rest with
      | [] => return out
      | i :: rest => do
        let text ← abbreviation (32 * (z - 1) + i)
        expand a extra abbreviation 0 (out ++ text) rest
    else if z = 6 ∧ row = 2 then
      match rest with
      | high :: low :: rest =>
        let c := (extra.toChar? (escapeCode high low)).getD '?'
        expand a extra abbreviation 0 (out.push c) rest
      | _ => return out
    else
      match extra.toChar? (a.letter row z).toUInt16 with
      | some c => expand a extra abbreviation 0 (out.push c) rest
      | none => expand a extra abbreviation 0 out rest

/-- The text of an abbreviation, which may not hold abbreviations itself. -/
def abbreviation (m : Memory) (h : Header) (a : Alphabet) (extra : ExtraChars) (number : Nat) :
    Except Fault String := do
  let entry ← m.read16 (h.abbreviations + 2 * number)
  let address := entry.toNat * 2
  let (zs, _) ← read m address
  expand a extra (fun _ => throw (.nestedAbbreviation address)) 0 "" zs

/-- A decoded z-string and the address after it. -/
structure Decoded where
  text : String
  stop : Nat
deriving DecidableEq, Repr

def decode (m : Memory) (h : Header) (address : Nat) : Except Fault Decoded := do
  let a ← Alphabet.ofStory m h
  let extra ← ExtraChars.ofStory m h
  let (zs, stop) ← read m address
  return ⟨← expand a extra (abbreviation m h a extra) 0 "" zs, stop⟩

/-! ## Dictionary form -/

/-- The z-characters that spell a ZSCII code. -/
def spell (a : Alphabet) (c : UInt8) : List Nat :=
  match a.find c with
  | some (0, z) => [z]
  | some (row, z) => [3 + row, z]
  | none => [5, 6, c.toNat / 32, c.toNat % 32]

/-- The nine z-characters of a word. -/
def dictionaryZchars (a : Alphabet) (zscii : List UInt8) : List Nat :=
  (zscii.flatMap (spell a) ++ List.replicate 9 5).take 9

/-- The bytes of z-characters, three to a word, the last word marked. -/
def pack : List Nat → List UInt8
  | a :: b :: c :: rest => wordBytes (packWord rest.isEmpty a b c) ++ pack rest
  | _ => []

/-- The six bytes under which a dictionary lists a word. -/
def dictionaryForm (a : Alphabet) (zscii : List UInt8) : List UInt8 :=
  pack (dictionaryZchars a zscii)

end ZMachine.ZString
