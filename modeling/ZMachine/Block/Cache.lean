import Std.Data.TreeMap
import ZMachine.Block.Basic

/-!
# The cache of blocks

Blocks are kept by the address they start at.  A block is never replaced while the same story is
loaded; the cache counts how often it was asked with and without success.
-/

namespace ZMachine

/-- Blocks by address. -/
structure Cache where
  blocks : Std.TreeMap UInt32 Block := {}
  hits : Nat := 0
  misses : Nat := 0

namespace Cache

/-- The block at an address; the answer is counted. -/
def lookup (pc : UInt32) (c : Cache) : Option Block × Cache :=
  match c.blocks[pc]? with
  | some b => (some b, { c with hits := c.hits + 1 })
  | none => (none, { c with misses := c.misses + 1 })

def insert (b : Block) (c : Cache) : Cache :=
  { c with blocks := c.blocks.insert b.pc b }

def contains (pc : UInt32) (c : Cache) : Bool :=
  c.blocks.contains pc

def size (c : Cache) : Nat :=
  c.blocks.size

def isEmpty (c : Cache) : Bool :=
  c.blocks.isEmpty

/-- No blocks, and nothing counted. -/
def clear (_ : Cache) : Cache :=
  {}

end Cache
end ZMachine
