import CrashCapture.Address

/-! Threads that are never suspended during a capture. They stand in a short row of slots, and
a counter tells how many of these are in use; a slot that was given out is never taken back.
-/

namespace CrashCapture.Threads

def reservedCapacity : Nat := 10

/-- The reserved threads, in the order in which they were reserved. A slot counts as used from
the moment it is given out, which is before the thread stands in it. -/
structure Reserved where
  slots : Vector ThreadId reservedCapacity := Vector.replicate reservedCapacity .null
  used : Nat := 0
deriving DecidableEq, Repr

namespace Reserved

def empty : Reserved := {}

def count (reserved : Reserved) : Nat := min reserved.used reservedCapacity

/-- What stands in the slots that are in use. -/
def threads (reserved : Reserved) : List ThreadId :=
  reserved.slots.toList.take reserved.count

def contains (reserved : Reserved) (thread : ThreadId) : Bool :=
  reserved.threads.contains thread

/-- The slot to give out next, unless all of them are in use. -/
def freeSlot? (reserved : Reserved) : Option (Fin reservedCapacity) :=
  if h : reserved.used < reservedCapacity then some ⟨reserved.used, h⟩ else none

end Reserved

end CrashCapture.Threads
