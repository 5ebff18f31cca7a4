import CrashCapture.Memory.Reader

/-! Registers of a thread and the frame records on its stack. A prologue leaves the caller's
frame pointer and the return address as two words at the place the frame pointer names.
-/

namespace CrashCapture.Stack

/-- The registers of one thread. Of the general slots only the first `known` are valid. -/
structure Registers where
  pc : Address := .null
  sp : Address := .null
  fp : Address := .null
  lr : Address := .null
  slots : Vector UInt64 32 := Vector.replicate 32 0
  known : Nat := 0
deriving DecidableEq, Repr

namespace Registers

/-- Only what a walk of the stack needs. -/
def ofFrame (pc fp lr : Address) : Registers where
  pc := pc
  fp := fp
  lr := lr

def general (registers : Registers) : List UInt64 :=
  registers.slots.toList.take registers.known

/-- Whether nothing at all was captured. -/
def isEmpty (registers : Registers) : Bool :=
  registers.pc.isNull && registers.sp.isNull && registers.fp.isNull

end Registers

/-- The two words at a frame pointer. -/
structure FrameRecord where
  previous : Address
  returnAddress : Address
deriving DecidableEq, Repr

namespace FrameRecord

def size : Nat := 16

/-- The record at `fp`; null holds none, and neither does memory that cannot be read. -/
def read? (memory : Memory) (fp : Address) : Option FrameRecord :=
  if fp.isNull then none
  else
    (memory.read? fp size).map fun record =>
      { previous := .ofNat (Memory.field record 0 8)
        returnAddress := .ofNat (Memory.field record 8 8) }

end FrameRecord

end CrashCapture.Stack
