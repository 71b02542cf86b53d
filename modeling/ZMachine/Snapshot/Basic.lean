import ZMachine.Machine

/-!
# Snapshots

A snapshot holds all that is needed to go on from a point of the story: the memory, the stack,
the output streams and the program counter, and the variable that is told of the return.  It names
the story it belongs to by release, serial number and checksum, and is refused elsewhere.

    apply (capture s v) s' = the machine s, but with the header, random numbers, story of s'
-/

namespace ZMachine

/-- A point of a story to return to. -/
structure Snapshot where
  release : UInt16
  serial : Vector UInt8 6
  checksum : UInt16
  /-- Where execution goes on. -/
  pc : UInt32
  /-- Where the instruction that took the snapshot stores its result. -/
  storer : Option Variable
  memory : Memory
  stack : Stack
  streams : OutputStreams
deriving DecidableEq

namespace Snapshot

/-- The point a machine is at. -/
def capture (s : Machine) (storer : Option Variable) : Snapshot where
  release := s.header.release
  serial := s.header.serial
  checksum := s.header.checksum
  pc := s.pc
  storer
  memory := s.memory
  stack := s.stack
  streams := s.streams

def belongsTo (p : Snapshot) (h : Header) : Bool :=
  p.release == h.release && p.serial == h.serial && p.checksum == h.checksum

/-- Puts a machine back to a point.  A snapshot of another story changes nothing. -/
def apply (p : Snapshot) : MachineM Unit := fun s =>
  if !p.belongsTo s.header then .error .foreignSnapshot s
  else if p.memory.size ≠ s.memory.size then
    .error (.snapshotSize p.memory.size s.memory.size) s
  else .ok () { s with memory := p.memory, pc := p.pc, stack := p.stack, streams := p.streams }

end Snapshot
end ZMachine
