import ZMachine.Text.ZString

/-!
# Dictionaries and parsing of input

A dictionary lists words by their six-byte form.  Its count is positive when the entries are
sorted, and then they are searched by halving; otherwise they are looked at one after another.

    lookup d m key = 0                the key is not listed
    lookup d m key = d.entry i        entry i has the key

`tokenise` splits the line in a text buffer into words and writes, for each word that the parse
buffer has room for, the address of its entry, its length and its position.
-/

namespace ZMachine

/-- A dictionary as its opening bytes describe it. -/
structure Dictionary where
  /-- Characters that are words of their own. -/
  separators : List UInt8
  /-- Number of bytes in an entry. -/
  entryLength : Nat
  /-- Number of entries; not positive when they are not sorted. -/
  count : Int
  /-- Address of the first entry. -/
  entries : Nat
deriving DecidableEq, Repr

namespace Dictionary

def read (m : Memory) (address : Nat) : Except OutOfRange Dictionary := do
  let n := (← m.read8 address).toNat
  let separators ← m.readBytes (address + 1) n
  let entryLength ← m.read8 (address + 1 + n)
  let count ← m.read16 (address + 2 + n)
  return ⟨separators, entryLength.toNat, signed count, address + 4 + n⟩

def entry (d : Dictionary) (i : Nat) : Nat :=
  d.entries + i * d.entryLength

/-! ## Searching -/

/-- The entry with the key among those from `low` to before `high`, halving the range. -/
def searchSorted (d : Dictionary) (m : Memory) (key : List UInt8) :
    (fuel low high : Nat) → Except OutOfRange Nat
  | 0, _, _ => return 0
  | fuel + 1, low, high => do
    if low < high then
      let middle := (low + high) / 2
      match compare (← m.readBytes (d.entry middle) 6) key with
      | .eq => return d.entry middle
      | .lt => searchSorted d m key fuel (middle + 1) high
      | .gt => searchSorted d m key fuel low middle
    else return 0

/-- The first entry with the key among `count` entries from number `i` on. -/
def searchLinear (d : Dictionary) (m : Memory) (key : List UInt8) :
    (count i : Nat) → Except OutOfRange Nat
  | 0, _ => return 0
  | count + 1, i => do
    if (← m.readBytes (d.entry i) 6) = key then return d.entry i
    else searchLinear d m key count (i + 1)

/-- The address of the entry with a key, or 0.  Each halving looks at one entry less, so the
number of entries bounds the search. -/
def lookup (d : Dictionary) (m : Memory) (key : List UInt8) : Except OutOfRange Nat :=
  if 0 < d.count then d.searchSorted m key (d.count.natAbs + 1) 0 d.count.natAbs
  else d.searchLinear m key d.count.natAbs 0

/-- The entry of a word written in ZSCII, in the alphabets of the story. -/
def find (m : Memory) (h : Header) (address : Nat) (word : List UInt8) : Except Fault Nat := do
  let a ← Alphabet.ofStory m h
  let d ← read m address
  d.lookup m (ZString.dictionaryForm a word)

end Dictionary

/-! ## Words of a line -/

/-- A word of a line: where it starts and how many bytes it has. -/
structure Token where
  start : Nat
  length : Nat
deriving DecidableEq, Repr

namespace Token

/-- The word from `start`, if one was begun, to before `stop`. -/
def close (start : Option Nat) (stop : Nat) : List Token :=
  match start with
  | some s => [⟨s, stop - s⟩]
  | none => []

/-- The words of the rest of a line, which begins at position `i`, when a word was begun at
`start`.  Spaces separate words; a separator is a word of its own. -/
def splitFrom (separators : List UInt8) : (i : Nat) → (start : Option Nat) → List UInt8 → List Token
  | i, start, [] => close start i
  | i, start, c :: rest =>
    if c = 32 then close start i ++ splitFrom separators (i + 1) none rest
    else if separators.contains c then
      close start i ++ ⟨i, 1⟩ :: splitFrom separators (i + 1) none rest
    else splitFrom separators (i + 1) (some (start.getD i)) rest

def split (separators text : List UInt8) : List Token :=
  splitFrom separators 0 none text

def bytes (t : Token) (text : List UInt8) : List UInt8 :=
  (text.drop t.start).take t.length

/-- The position of a word in the text buffer, as far as a byte can hold it. -/
def position (t : Token) : UInt8 :=
  .ofNat (min 255 (t.start + 2))

end Token

/-! ## The parse buffer -/

def writeSlot (slot : Nat) (entry : Nat) (t : Token) : MemoryM Unit := do
  Memory.write16 slot (.ofNat entry)
  Memory.write8 (slot + 2) (.ofNat t.length)
  Memory.write8 (slot + 3) t.position

/-- Writes the slots of words from `slot` on.  A word that is not listed leaves its slot as it is
if `skipUnknown` says so. -/
def writeSlots (d : Dictionary) (a : Alphabet) (text : List UInt8) (skipUnknown : Bool) :
    (slot : Nat) → List Token → MemoryM Unit
  | _, [] => return
  | slot, t :: rest => do
    let entry ← d.lookup (← get) (ZString.dictionaryForm a (t.bytes text))
    if !(entry == 0 && skipUnknown) then writeSlot slot entry t
    writeSlots d a text skipUnknown (slot + 4) rest

/-- Splits the line in the text buffer into words and records them in the parse buffer.
Dictionary 0 is the one the header names. -/
def tokenise (h : Header) (buffer parse dictionary : Nat) (skipUnknown : Bool) :
    MemoryM Unit := do
  let m ← get
  let d ← Dictionary.read m (if dictionary = 0 then h.dictionary else dictionary)
  let a ← Alphabet.ofStory m h
  let length ← m.read8 (buffer + 1)
  let text ← m.readBytes (buffer + 2) length.toNat
  let room ← m.read8 parse
  let words := (Token.split d.separators text).take room.toNat
  writeSlots d a text skipUnknown (parse + 2) words
  Memory.write8 (parse + 1) (.ofNat words.length)

end ZMachine
