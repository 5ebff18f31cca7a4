import CrashCapture.Process.State

/-! Exempting threads from suspension. A thread is looked for first, so that one that is
reserved already is fine even when no slot is left; a new one takes the next slot.
-/

namespace CrashCapture.Reservation

open Threads (reservedCapacity)

def nullThread : Failure := .invalidArgument "cannot reserve the null thread"

def noneLeft : Failure :=
  .resourceExhausted
    ("at most " ++ Digits.decimal reservedCapacity ++ " threads can be reserved")

/-- Counts the next slot as used and tells which one it is, unless all are in use. -/
def takeSlot : Action (Option (Fin reservedCapacity)) :=
  .exchange (·.reserved.freeSlot?) fun process =>
    match process.reserved.freeSlot? with
    | some slot => { process with reserved.used := slot + 1 }
    | none => process

def fill (slot : Fin reservedCapacity) (thread : ThreadId) : Action Unit :=
  .modify fun process =>
    { process with reserved.slots := process.reserved.slots.set slot thread }

/-- Reserves a thread, once. -/
def reserve (thread : ThreadId) : Action (Except Failure Unit) := do
  if thread.isNull then return .error nullThread
  if ← .ask (·.reserved.contains thread) then return .ok ()
  match ← takeSlot with
  | none =>
    Action.diagnose .warn .suspension
      ("Reserved thread list is full; thread " ++ thread.text
        ++ " will be suspended during capture")
    return .error noneLeft
  | some slot =>
    fill slot thread
    Action.diagnose .debug .suspension
      ("Reserved thread " ++ thread.text ++ " (" ++ Digits.decimal (slot + 1) ++ " of "
        ++ Digits.decimal reservedCapacity ++ ")")
    return .ok ()

end CrashCapture.Reservation
