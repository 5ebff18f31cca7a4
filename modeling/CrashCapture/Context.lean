import CrashCapture.Stack.Cursor
import CrashCapture.Threads.Listing

/-! The state of one thread at the time of a failure, with a list of all threads. A running
thread cannot read its own registers; they are known only when a fault hands them over.
-/

namespace CrashCapture

open Stack

/-- How many threads a context lists. -/
def listedThreads : Nat := 100

/-- A crashed stack with more frames than this has overflowed. -/
def overflowThreshold : Nat := 150

/-- A snapshot, written into a place that an earlier one may have used. -/
structure Context where
  registers : Registers := {}
  thread : ThreadId := .null
  slots : Vector ThreadId listedThreads := Vector.replicate listedThreads .null
  count : Nat := 0
  crashed : Bool := false
  fromSignal : Bool := false
  current : Bool := false
  overflowed : Bool := false
deriving Repr

/-- What a capture looks at. -/
structure Surroundings where
  currentThread : ThreadId
  memory : Memory
  tasks : Threads.TaskDirectory

namespace Context

def threads (context : Context) : List ThreadId := context.slots.toList.take context.count

def threadAt? (context : Context) (index : Nat) : Option ThreadId := context.threads[index]?

def indexOf? (context : Context) (thread : ThreadId) : Option Nat :=
  context.threads.findIdx? (· = thread)

/-- Registers may have been captured, unless the thread looked at itself outside a
fault. -/
def canHaveRegisters (context : Context) : Bool := !context.current || context.fromSignal

/-- Whether the registers describe the fault itself. -/
def hasFaultRegisters (context : Context) : Bool :=
  context.canHaveRegisters && context.crashed

def cursor (context : Context) (maxDepth : Nat) : Cursor :=
  .ofRegisters context.registers maxDepth

/-- Forgets an earlier capture. -/
def reset (_earlier : Context) (thread : ThreadId) : Context := { thread := thread }

/-- The thread list while it is being filled. -/
structure Roll where
  slots : Vector ThreadId listedThreads
  count : Nat := 0
  total : Nat := 0
  keptCrashed : Bool := false

/-- Counts a thread and lists it while there is room. -/
def Roll.visit (crashed : ThreadId) (roll : Roll) (thread : ThreadId) : Roll :=
  if h : roll.count < listedThreads then
    { slots := roll.slots.set roll.count thread
      count := roll.count + 1
      total := roll.total + 1
      keptCrashed := roll.keptCrashed || thread = crashed }
  else { roll with total := roll.total + 1 }

/-- Lists every thread. When there are too many, the crashed one takes the last place if it
would be missing; when they cannot be listed at all, it stands alone. -/
def recordThreads (surroundings : Surroundings) (context : Context) : Log.Noted Context := do
  let crashed := context.thread
  let listing ← surroundings.tasks.list
  let roll := listing.visited.foldl (Roll.visit crashed) { slots := context.slots }
  match listing.result with
  | .ok () =>
    if listedThreads < roll.total then
      .note ⟨.warn, .context,
        Digits.decimal roll.total ++ " threads exceed capacity "
          ++ Digits.decimal listedThreads ++ "; list truncated"⟩
      let missing := !roll.keptCrashed && !crashed.isNull
      return { context with
        slots :=
          if missing then roll.slots.set (listedThreads - 1) crashed (by decide)
          else roll.slots
        count := roll.count }
    else return { context with slots := roll.slots, count := roll.count }
  | .error failure =>
    .note ⟨.error, .context, "could not enumerate threads: " ++ failure.brief⟩
    return { context with
      slots := roll.slots.set 0 crashed (by decide)
      count := if crashed.isNull then 0 else 1 }

/-- Detects an overflowed stack and lists the threads. -/
def finishCrashed (surroundings : Surroundings) (context : Context) : Log.Noted Context :=
  recordThreads surroundings
    { context with
      overflowed := (context.cursor overflowThreshold).runsOut surroundings.memory }

/-- Captures a thread. Another thread's registers cannot be read while it runs. -/
def captureThread (surroundings : Surroundings) (earlier : Context) (thread : ThreadId)
    (crashed : Bool)
    : Log.Noted Context := do
  let context := { earlier.reset thread with
    current := thread = surroundings.currentThread
    crashed := crashed }
  if context.canHaveRegisters then
    .note ⟨.warn, .context, "no register state for thread " ++ thread.text⟩
  if crashed then finishCrashed surroundings context else return context

/-- Captures the current thread from what a signal handler was given. -/
def captureSignal (surroundings : Surroundings) (earlier : Context)
    (registers : Option Registers)
    : Log.Noted Context := do
  let context := { earlier.reset surroundings.currentThread with
    current := true
    crashed := true
    fromSignal := true }
  match registers with
  | some registers => finishCrashed surroundings { context with registers := registers }
  | none => do
    .note ⟨.error, .context, "signal context carried no registers"⟩
    finishCrashed surroundings context

/-- Captures from registers obtained elsewhere, which are trusted like those of a fault. -/
def captureRegisters (surroundings : Surroundings) (earlier : Context) (thread : ThreadId)
    (registers : Registers)
    : Log.Noted Context :=
  finishCrashed surroundings
    { earlier.reset thread with
      current := thread = surroundings.currentThread
      crashed := true
      fromSignal := true
      registers := registers }

end Context

end CrashCapture
