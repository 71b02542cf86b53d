import ZMachine.Header

/-!
# Characters of the story

A story writes text in ZSCII: 13 is a newline, 32 to 126 are as in ASCII, and 155 to 251 are the
extra characters, which a story may choose itself.  `toChar?` reads a code and `ofChar?` finds the
code of a character; a character without a code is written as a question mark.

    toChar? t 13 = some '\n'        ofChar? t '\r' = some 13        encode t ['→'] = [63]
-/

namespace ZMachine

/-- The extra characters of a story, from code 155 on. -/
structure ExtraChars where
  chars : List Char
deriving DecidableEq

namespace Zscii

def newline : UInt16 := 13

/-- The code written for a character that has none. -/
def question : UInt8 := 63

def firstExtra : Nat := 155

/-- The last code that can be an extra character. -/
def lastExtra : Nat := 251

end Zscii

namespace ExtraChars

/-- The characters of a story that brings no table of its own. -/
def standard : ExtraChars :=
  ⟨"äöüÄÖÜß»«ëïÿËÏáéíóúýÁÉÍÓÚÝàèìòùÀÈÌÒÙâêîôûÂÊÎÔÛåÅøØãñõÃÑÕæÆçÇþðÞÐ£œŒ¡¿".toList⟩

/-- The character with a code point, or `other` if the number is none. -/
def charOr (other : Char) (n : Nat) : Char :=
  if h : n.isValidChar then Char.ofNatAux n h else other

/-- `count` characters of a table, one word each. -/
def readTable (m : Memory) (address : Nat) : (count : Nat) → Except Fault (List Char)
  | 0 => return []
  | count + 1 => do
    let code ← m.read16 address
    return charOr '?' code.toNat :: (← readTable m (address + 2) count)

/-- The extra characters in effect: the story's own table, if its extension word names one. -/
def ofStory (m : Memory) (h : Header) : Except Fault ExtraChars := do
  match ← h.extensionWord m Layout.unicodeTableWord with
  | none => return standard
  | some table =>
    if table = 0 then return standard
    let count ← m.read8 table.toNat
    return ⟨← readTable m (table.toNat + 1) count.toNat⟩

def toChar? (t : ExtraChars) (code : UInt16) : Option Char :=
  let n := code.toNat
  if code = Zscii.newline then some '\n'
  else if 32 ≤ n ∧ n ≤ 126 then some (Char.ofNat n)
  else if Zscii.firstExtra ≤ n ∧ n ≤ Zscii.lastExtra then t.chars[n - Zscii.firstExtra]?
  else none

def ofChar? (t : ExtraChars) (c : Char) : Option UInt16 :=
  if c = '\n' ∨ c = '\r' then some Zscii.newline
  else if 32 ≤ c.toNat ∧ c.toNat ≤ 126 then some (.ofNat c.toNat)
  else (t.chars.idxOf? c).map fun i => .ofNat (Zscii.firstExtra + i)

/-- The byte of a character; a code that is no byte counts as none. -/
def encodeChar (t : ExtraChars) (c : Char) : UInt8 :=
  match t.ofChar? c with
  | some code => if code ≤ 255 then code.toUInt8 else Zscii.question
  | none => Zscii.question

def encode (t : ExtraChars) (text : String) : List UInt8 :=
  text.toList.map t.encodeChar

end ExtraChars
end ZMachine
