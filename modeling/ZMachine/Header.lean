import ZMachine.Memory.Update
import ZMachine.Config

/-!
# The story header

The first 64 bytes of a story say where its tables are.  `Header.parse` reads them; it refuses
every version but 5 and 8 before it looks at anything else.  The machine in turn writes a few
bytes of the header to tell the story what it can do:

    writeCapabilities h c      flags, screen size, font size and standard revision
    carryFlags previous        the low byte of flags 2, kept over a restart

The extension table is a counted table of words.  `extensionWord h m i` is the word with number
`i`, `none` when the story has no table or a shorter one.
-/

namespace ZMachine

/-! ## Layout -/

namespace Layout

def version : Nat := 0x00
def flags1 : Nat := 0x01
def release : Nat := 0x02
def highMemory : Nat := 0x04
def initialPc : Nat := 0x06
def dictionary : Nat := 0x08
def propertyDefaults : Nat := 0x0A
def globals : Nat := 0x0C
def staticMemory : Nat := 0x0E
/-- Low byte of the flags 2 word, the only part of it that is ever changed. -/
def flags2 : Nat := 0x11
def serial : Nat := 0x12
def abbreviations : Nat := 0x18
def fileLength : Nat := 0x1A
def checksum : Nat := 0x1C
def screenHeight : Nat := 0x20
def screenWidth : Nat := 0x21
def screenWidthUnits : Nat := 0x22
def screenHeightUnits : Nat := 0x24
def fontMetrics : Nat := 0x26
def terminatingChars : Nat := 0x2E
def standardRevision : Nat := 0x32
def alphabetTable : Nat := 0x34
def extension : Nat := 0x36
def size : Nat := 0x40
/-- The extension word with the address of the story's own extra characters. -/
def unicodeTableWord : Nat := 3
/-- The extension word with the third set of flags. -/
def flags3Word : Nat := 4

end Layout

/-- The fields of the header. -/
structure Header where
  version : UInt8
  release : UInt16
  serial : Vector UInt8 6
  checksum : UInt16
  /-- Length of the story in bytes, as the header claims. -/
  fileLength : Nat
  highMemory : Nat
  initialPc : UInt32
  dictionary : Nat
  propertyDefaults : Nat
  globals : Nat
  staticMemory : Nat
  abbreviations : Nat
  alphabetTable : Nat
  terminatingChars : Nat
  extension : Nat
  /-- Number of words in the extension table. -/
  extensionCount : Nat
deriving DecidableEq, Inhabited

namespace Header

/-- Packed addresses count in units of this many bytes. -/
def packing (version : UInt8) : Nat :=
  if version = 5 then 4 else 8

/-- The number of bytes one step of a packed address stands for. -/
def packingMultiplier (h : Header) : Nat :=
  packing h.version

/-- Where object 0 would be.  There are 63 words of property defaults, and object 1, whose entry
has 14 bytes, follows them. -/
def objects (h : Header) : Nat :=
  h.propertyDefaults + 112

/-- The byte address that a packed routine or string address stands for. -/
def unpack (h : Header) (packed : UInt16) : Nat :=
  packed.toNat * h.packingMultiplier

/-! ## Reading -/

/-- A word of the memory as an address. -/
def readAddress (m : Memory) (address : Nat) : Except Fault Nat := do
  return (← m.read16 address).toNat

/-- The six bytes of the serial number. -/
def readSerial (m : Memory) : Vector UInt8 6 :=
  Vector.ofFn fun i => m.bytes[Layout.serial + i.val]?.getD 0

/-- Reads the header.  A story shorter than the header is refused as an access to the header's
last byte. -/
def parse (m : Memory) : Except Fault Header := do
  let version ← m.read8 Layout.version
  if version ≠ 5 ∧ version ≠ 8 then throw (.unsupportedVersion version)
  if m.size < Layout.size then let _ ← m.read8 (Layout.size - 1)
  let extension ← readAddress m Layout.extension
  let extensionCount ← if extension = 0 then pure 0 else readAddress m extension
  return {
    version
    release := ← m.read16 Layout.release
    serial := readSerial m
    checksum := ← m.read16 Layout.checksum
    fileLength := (← readAddress m Layout.fileLength) * packing version
    highMemory := ← readAddress m Layout.highMemory
    initialPc := (← m.read16 Layout.initialPc).toUInt32
    dictionary := ← readAddress m Layout.dictionary
    propertyDefaults := ← readAddress m Layout.propertyDefaults
    globals := ← readAddress m Layout.globals
    staticMemory := ← readAddress m Layout.staticMemory
    abbreviations := ← readAddress m Layout.abbreviations
    alphabetTable := ← readAddress m Layout.alphabetTable
    terminatingChars := ← readAddress m Layout.terminatingChars
    extension
    extensionCount }

/-- Whether the extension table has a word with this number. -/
def hasExtensionWord (h : Header) (index : Nat) : Bool :=
  h.extension != 0 && index ≤ h.extensionCount

def extensionAddress (h : Header) (index : Nat) : Nat :=
  h.extension + 2 * index

def extensionWord (h : Header) (m : Memory) (index : Nat) : Except Fault (Option UInt16) :=
  if h.hasExtensionWord index then return some (← m.read16 (h.extensionAddress index))
  else return none

/-! ## Writing -/

/-- Writes an extension word; answers whether there was one to write. -/
def setExtensionWord (h : Header) (index : Nat) (value : UInt16) : MemoryM Bool := do
  if h.hasExtensionWord index then
    Memory.write16 (h.extensionAddress index) value
    return true
  else return false

/-- Carries the low byte of flags 2 over from an earlier memory. -/
def carryFlags (previous : Memory) : MemoryM Unit := do
  let flags ← previous.read8 Layout.flags2
  Memory.write8 Layout.flags2 flags

/-- Flags 1: colours, bold, italic and fixed pitch, and timed input if it is offered. -/
def capabilityFlags (c : Config) : UInt8 :=
  0x1D ||| (if c.timed then 0x80 else 0)

/-- Flags 2 without pictures, mouse and sound, which are not provided. -/
def keptFlags (flags : UInt8) : UInt8 :=
  flags &&& 0x57

def writeCapabilities (h : Header) (c : Config) : MemoryM Unit := do
  Memory.write8 Layout.flags1 (capabilityFlags c)
  let flags ← (← get).read8 Layout.flags2
  Memory.write8 Layout.flags2 (keptFlags flags)
  Memory.write8 Layout.screenHeight 255
  Memory.write8 Layout.screenWidth c.width
  Memory.write16 Layout.screenWidthUnits c.width.toUInt16
  Memory.write16 Layout.screenHeightUnits 255
  Memory.write16 Layout.fontMetrics 0x0101
  Memory.write8 Layout.standardRevision 1
  Memory.write8 (Layout.standardRevision + 1) (if c.securityOverride then 2 else 0)
  let _ ← h.setExtensionWord Layout.flags3Word 0

end Header
end ZMachine
