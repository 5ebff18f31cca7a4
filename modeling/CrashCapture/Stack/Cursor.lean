import CrashCapture.Stack.Frame

/-! A walk over the return addresses of one thread, one address at a time. The walk refuses
to go past its depth limit and remembers that it did, so corrupted stacks whose records form
a loop end too, and a stack that overflowed can be told from one that ended.
-/

namespace CrashCapture.Stack

/-- What is still ahead of a walk: addresses known already, then the chain of frame records
from a frame pointer, if there is one. -/
inductive Trail where
  | ahead (known : List Address) (chain : Option Address)
  | ended
deriving DecidableEq, Repr

namespace Trail

/-- Takes the next address. A record with a null link or a null return address ends the
chain; one that links to itself counts once. -/
def next? (memory : Memory) : Trail → Option (Address × Trail)
  | .ended => none
  | .ahead (address :: known) chain => some (address, .ahead known chain)
  | .ahead [] none => none
  | .ahead [] (some fp) =>
    match FrameRecord.read? memory fp with
    | none => none
    | some record =>
      if record.previous.isNull || record.returnAddress.isNull then none
      else if record.previous = fp then some (record.returnAddress, .ended)
      else some (record.returnAddress, .ahead [] (some record.previous))

/-- Program counter, link register and frame chain; null registers are left out. -/
def ofRegisters (registers : Registers) : Trail :=
  .ahead ([registers.pc, registers.lr].filter (fun a => !a.isNull)) (some registers.fp)

/-- How many addresses of a backtrace taken beforehand are kept. -/
def capturedCapacity : Nat := 100

def ofAddresses (addresses : List Address) : Trail :=
  .ahead (addresses.take capturedCapacity) none

end Trail

/-- A restartable walk. -/
structure Cursor where
  start : Trail
  maxDepth : Nat
  trail : Trail
  depth : Nat := 0
  address : Address := .null
  gaveUp : Bool := false
deriving DecidableEq, Repr

namespace Cursor

/-- The depth limit for walks that start at a fault. -/
def defaultMaxDepth : Nat := 500

def ofTrail (trail : Trail) (maxDepth : Nat) : Cursor where
  start := trail
  maxDepth := maxDepth
  trail := trail

def ofRegisters (registers : Registers) (maxDepth : Nat) : Cursor :=
  ofTrail (.ofRegisters registers) maxDepth

def ofAddresses (addresses : List Address) (maxDepth : Nat) : Cursor :=
  ofTrail (.ofAddresses addresses) maxDepth

def reset (cursor : Cursor) : Cursor := ofTrail cursor.start cursor.maxDepth

/-- Moves to the next address, and tells whether there was one. Only a walk that stands at
its limit, with its trail not known to have ended, gives up. -/
def advance (memory : Memory) (cursor : Cursor) : Bool × Cursor :=
  if cursor.trail = .ended then (false, cursor)
  else if cursor.maxDepth ≤ cursor.depth then
    (false, { cursor with gaveUp := true, trail := .ended })
  else
    match cursor.trail.next? memory with
    | none => (false, { cursor with trail := .ended })
    | some (address, trail) =>
      (true, { cursor with trail := trail, address := address, depth := cursor.depth + 1 })

/-- A step that succeeds takes one of the addresses that the limit still allows. -/
theorem advance_depth {memory : Memory} {cursor next : Cursor}
    (h : cursor.advance memory = (true, next))
    : next.maxDepth = cursor.maxDepth ∧ next.depth = cursor.depth + 1
      ∧ cursor.depth < cursor.maxDepth := by
  unfold advance at h
  split at h
  · cases h
  · split at h
    · cases h
    · split at h
      · cases h
      · cases h
        exact ⟨rfl, rfl, by omega⟩

/-- The addresses of the next `count` steps, or of fewer when the walk ends, and the cursor
after them. -/
def take (memory : Memory) (cursor : Cursor) : Nat → List Address × Cursor
  | 0 => ([], cursor)
  | count + 1 =>
    match cursor.advance memory with
    | (false, stopped) => ([], stopped)
    | (true, next) =>
      let rest := take memory next count
      (next.address :: rest.1, rest.2)

/-- The addresses from here to the end of the walk, and the cursor that has ended. -/
def drain (memory : Memory) (cursor : Cursor) : List Address × Cursor :=
  match _h : cursor.advance memory with
  | (false, stopped) => ([], stopped)
  | (true, next) =>
    let rest := drain memory next
    (next.address :: rest.1, rest.2)
termination_by cursor.maxDepth - cursor.depth
decreasing_by
  have := advance_depth _h
  omega

/-- Walks to the end and stores as many addresses as there is room for. -/
def collect (memory : Memory) (cursor : Cursor) (capacity : Nat) : List Address × Cursor :=
  let walked := cursor.drain memory
  (walked.1.take capacity, walked.2)

/-- Whether the walk runs into its depth limit. -/
def runsOut (memory : Memory) (cursor : Cursor) : Bool := (cursor.drain memory).2.gaveUp

end Cursor

end CrashCapture.Stack
