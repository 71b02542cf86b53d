import ZMachine.Snapshot.Basic
import ZMachine.Wire.Snapshot

/-!
# The save container

A saved snapshot is a run of bytes: a magic, a format version, a reserved word, then sections, each
with a tag of four bytes and the length of its payload.  Numbers have their high byte first.

    IFHD   release, serial, checksum, pc, and whether and which variable stores the result
    CMEM   the memory xor-ed with the story; a run of n ≤ 256 zeros is written 0, n - 1, and the
           zeros at the end are left out
    STKS   the stack        OSTR   the output streams

Sections may come in any order and unknown ones are passed over; a known one must not come twice.
All but the last are required.

    decode (encode s story) story = .ok s      when the memory of s has the size of the story
-/

namespace ZMachine.Snapshot

/-! ## Numbers in bytes -/

def doubleWordBytes (n : UInt32) : List UInt8 :=
  [(n >>> 24).toUInt8, (n >>> 16).toUInt8, (n >>> 8).toUInt8, n.toUInt8]

def doubleWord (a b c d : UInt8) : UInt32 :=
  a.toUInt32 <<< 24 ||| b.toUInt32 <<< 16 ||| c.toUInt32 <<< 8 ||| d.toUInt32

/-! ## The layout -/

/-- "ZVMS" in bytes. -/
def magic : List UInt8 := [0x5A, 0x56, 0x4D, 0x53]

/-- The format written, and the newest that is read. -/
def formatVersion : UInt16 := 1

/-- The number of bytes in the header section. -/
def headerLength : Nat := 16

def tagBytes (s : Section) : List UInt8 :=
  s.tag.toList.map fun c => .ofNat c.toNat

def sectionOf? (tag : List UInt8) : Option Section :=
  [Section.header, .memory, .stack, .streams].find? fun s => tagBytes s == tag

/-! ## Memory as differences -/

/-- A run of zeros in pieces of at most 256. -/
def zeroRun (zeros : Nat) (out : Array UInt8) : Array UInt8 :=
  let full := (List.replicate (zeros / 256) [(0 : UInt8), 255]).flatten
  let rest := if zeros % 256 = 0 then [] else [0, UInt8.ofNat (zeros % 256 - 1)]
  out ++ full ++ rest

/-- The differences of two runs of bytes behind those so far; `zeros` differences that are zero
wait to be written. -/
def compressTo (out : Array UInt8) (zeros : Nat) : List UInt8 → List UInt8 → Array UInt8
  | a :: as, b :: bs =>
    if a ^^^ b = 0 then compressTo out (zeros + 1) as bs
    else compressTo ((zeroRun zeros out).push (a ^^^ b)) 0 as bs
  | _, _ => out

/-- The memory as differences from the story. -/
def compress (memory story : Memory) : List UInt8 :=
  (compressTo #[] 0 memory.toList story.toList).toList

/-- The differences that a payload stands for, behind those so far; there must be no more than
`limit`. -/
def expandTo (limit : Nat) (out : Array UInt8) : List UInt8 → Except SaveFault (Array UInt8)
  | [] => return out
  | 0 :: n :: rest => do
    let out := out ++ List.replicate (n.toNat + 1) (0 : UInt8)
    if out.size ≤ limit then expandTo limit out rest else throw .expandsPastStory
  | x :: rest => do
    if x = 0 then throw .truncatedRun
    let out := out.push x
    if out.size ≤ limit then expandTo limit out rest else throw .expandsPastStory

/-- The memory with the given differences from the story. -/
def expand (payload : List UInt8) (story : Memory) : Except SaveFault Memory := do
  let differences ← expandTo story.size #[] payload
  return ⟨story.bytes.mapIdx fun i b => b ^^^ differences.getD i 0⟩

/-! ## Writing -/

/-- A section with its tag and length. -/
def sectionBytes (s : Section) (payload : List UInt8) : List UInt8 :=
  tagBytes s ++ doubleWordBytes (.ofNat payload.length) ++ payload

def headerPayload (p : Snapshot) : List UInt8 :=
  wordBytes p.release ++ p.serial.toList ++ wordBytes p.checksum ++ doubleWordBytes p.pc
    ++ (match p.storer with
      | some v => [1, v.number]
      | none => [0, 0])

def encode (p : Snapshot) (story : Memory) : Except SaveFault (List UInt8) := do
  if p.memory.size ≠ story.size then throw .imageSize
  return magic ++ wordBytes formatVersion ++ wordBytes 0
    ++ sectionBytes .header p.headerPayload
    ++ sectionBytes .memory (compress p.memory story)
    ++ sectionBytes .stack p.stack.toJson.compactBytes
    ++ sectionBytes .streams p.streams.toJson.compactBytes

/-! ## Reading -/

/-- The sections read so far.  The header section is looked into at the end only. -/
structure Parts where
  header : Option (List UInt8) := none
  memory : Option Memory := none
  stack : Option Stack := none
  streams : Option OutputStreams := none

/-- A value, or the defect that there is none. -/
def orFail {α : Type} (e : SaveFault) : Option α → Except SaveFault α
  | some a => return a
  | none => throw e

def Parts.add (parts : Parts) (story : Memory) (s : Section) (payload : List UInt8) :
    Except SaveFault Parts := do
  match s with
  | .header =>
    if parts.header.isSome then throw (.duplicate s)
    return { parts with header := some payload }
  | .memory =>
    if parts.memory.isSome then throw (.duplicate s)
    return { parts with memory := some (← expand payload story) }
  | .stack =>
    if parts.stack.isSome then throw (.duplicate s)
    let stack ← orFail (.unreadable s) ((Json.parse payload).bind Stack.ofJson?)
    return { parts with stack := some stack }
  | .streams =>
    if parts.streams.isSome then throw (.duplicate s)
    let streams ← orFail (.unreadable s) ((Json.parse payload).bind OutputStreams.ofJson?)
    return { parts with streams := some streams }

/-- The first section of some bytes: its tag, its payload and the bytes after it. -/
def nextSection (bytes : List UInt8) : Except SaveFault (List UInt8 × List UInt8 × List UInt8) :=
  match bytes with
  | t₀ :: t₁ :: t₂ :: t₃ :: rest =>
    match rest with
    | a :: b :: c :: d :: rest =>
      let length := (doubleWord a b c d).toNat
      if length ≤ rest.length then
        return ([t₀, t₁, t₂, t₃], rest.take length, rest.drop length)
      else throw .overrun
    | _ => throw (.endsIn "u32")
  | _ => throw (.endsIn "section tag")

/-- The parts with all sections of some bytes.  A section takes at least eight bytes, so their
number bounds the sections. -/
def readSections (story : Memory) :
    (fuel : Nat) → Parts → List UInt8 → Except SaveFault Parts
  | _, parts, [] => return parts
  | 0, _, _ => throw .overrun
  | fuel + 1, parts, bytes => do
    let (tag, payload, rest) ← nextSection bytes
    match sectionOf? tag with
    | some s => readSections story fuel (← parts.add story s payload) rest
    | none => readSections story fuel parts rest

/-- The snapshot with the given header payload and parts. -/
def assemble (parts : Parts) : Except SaveFault Snapshot := do
  let header ← orFail (.missing .header) parts.header
  match header with
  | [r₀, r₁, s₀, s₁, s₂, s₃, s₄, s₅, c₀, c₁, p₀, p₁, p₂, p₃, flag, number] =>
    return {
      release := word r₀ r₁
      serial := #v[s₀, s₁, s₂, s₃, s₄, s₅]
      checksum := word c₀ c₁
      pc := doubleWord p₀ p₁ p₂ p₃
      storer := if flag = 0 then none else some ⟨number⟩
      memory := ← orFail (.missing .memory) parts.memory
      stack := ← orFail (.missing .stack) parts.stack
      streams := parts.streams.getD {} }
  | _ => throw (.headerLength header.length)

def decode (bytes : List UInt8) (story : Memory) : Except SaveFault Snapshot :=
  match bytes with
  | m₀ :: m₁ :: m₂ :: m₃ :: v₀ :: v₁ :: _ :: _ :: rest => do
    if [m₀, m₁, m₂, m₃] ≠ magic then throw .badMagic
    if formatVersion < word v₀ v₁ then throw (.unsupportedFormat (word v₀ v₁) formatVersion)
    assemble (← readSections story bytes.length {} rest)
  | _ => throw .tooSmall

end ZMachine.Snapshot
