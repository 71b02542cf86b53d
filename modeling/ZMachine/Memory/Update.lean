import ZMachine.Fault

/-!
# Writing to memory

Actions on a memory run in `MemoryM`.  A fault ends an action but does not undo it: the memory is
left as the writes before the fault made it.  A single write outside the memory changes nothing.

    write8 a v m = .ok () (m.set8 a v)                   when a < m.size
    write8 a v m = .error (.outOfRange ⟨a, 1, m.size⟩) m   otherwise
-/

namespace ZMachine

abbrev MemoryM := EStateM Fault Memory

instance {σ : Type} : MonadLift (Except Fault) (EStateM Fault σ) where
  monadLift
    | .ok a => pure a
    | .error e => throw e

instance {σ : Type} : MonadLift (Except OutOfRange) (EStateM Fault σ) where
  monadLift
    | .ok a => pure a
    | .error e => throw (.outOfRange e)

namespace Memory

def write8 (address : Nat) (value : UInt8) : MemoryM Unit := fun m =>
  if address < m.size then .ok () (m.set8 address value)
  else .error (.outOfRange ⟨address, 1, m.size⟩) m

def write16 (address : Nat) (value : UInt16) : MemoryM Unit := fun m =>
  if address + 1 < m.size then .ok () (m.setBytes address (wordBytes value))
  else .error (.outOfRange ⟨address, 2, m.size⟩) m

def writeBytes (address : Nat) (data : List UInt8) : MemoryM Unit := fun m =>
  if address + data.length ≤ m.size then .ok () (m.setBytes address data)
  else .error (.outOfRange ⟨address, data.length, m.size⟩) m

/-- Copies `count` bytes one at a time and forwards, so that an overlapping target repeats what
was just written. -/
def copyForward (source target : Nat) : (count : Nat) → MemoryM Unit
  | 0 => pure ()
  | count + 1 => do
    let b ← (← get).read8 source
    write8 target b
    copyForward (source + 1) (target + 1) count

end Memory
end ZMachine
