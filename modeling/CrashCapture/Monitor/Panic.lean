import CrashCapture.Monitor.Trap
import CrashCapture.Stack.OwnThread

/-! Panics. The monitor's hook captures the panicking thread and then lets the hook run that
it replaced. A panic can be caught, so its event is fatal only while another failure is
being handled; a panic inside the hook ends the process.
-/

namespace CrashCapture.Panic

/-- The name of the exception that events of panics carry. -/
def exceptionName : String := "rust_panic"

def exceptionLanguage : String := "rust"

/-- The reason of a panic whose payload is no text. -/
def otherPayload : String := "Box<dyn Any>"

/-- A place in the text of a program. -/
structure Place where
  file : String := ""
  line : Nat := 0
  column : Nat := 0
deriving DecidableEq, Repr

namespace Place

/-- The place as a report names it, with its column. -/
def text (place : Place) : String :=
  place.file ++ ":" ++ Digits.decimal place.line ++ ":" ++ Digits.decimal place.column

/-- The file and the line alone. -/
def lineText (place : Place) : String := place.file ++ ":" ++ Digits.decimal place.line

end Place

/-- What a panic carries, and the place in the program where it started. -/
structure Cause where
  text : Option String := none
  location : Option Place := some {}
deriving DecidableEq, Repr

/-- The frames of the running code, which skips some of its own. -/
def ownCursor (host : Host) (skip maxDepth : Nat) : Stack.Cursor :=
  .ofAddresses
    (Stack.ownFrames host.surroundings.memory host.framePointer skip
      Stack.Trail.capturedCapacity)
    maxDepth

/-- Captures the panicking thread and sends the event through the pipeline. -/
def capture (host : Host) (cause : Cause) : Action Unit := do
  let id ← host.issue
  let isFatal ← .ask (·.handling)
  let crashedDuring ← if isFatal then Pipeline.notifyFatal host false else pure false
  let suspension ← Suspension.begin
  let context ← Action.hear
    (Context.captureThread host.surroundings {} host.thread true)
  let _ ← Pipeline.handle host {
    id := id
    monitor := Monitor.panic.id
    reason := some (cause.text.getD otherPayload)
    exception := some {
      name := exceptionName
      language := some exceptionLanguage
      line := cause.location.map (·.text) }
    isFatal := isFatal
    crashedDuring := crashedDuring
    context := context
    cursor := ownCursor host 0 Stack.Trail.capturedCapacity }
  suspension.resume

/-- The hook that the monitor installs. -/
def hook (host : Host) (cause : Cause) : Action Unit := do
  if ← .ask (·.enabled.panic) then capture host cause
  match ← .ask (·.previousHook) with
  | some _ => host.onPanic cause.text
  | none => return ()

/-- A panic that is caught in the end. -/
def run (host : Host) (cause : Cause) : Action Unit := do
  if ← host.askThread (·.inPanicHook) then Trap.abort host
  host.modifyThread fun thread =>
    { thread with panics := thread.panics + 1, inPanicHook := true }
  match ← .ask (·.hook) with
  | .capture => hook host cause
  | _ => host.onPanic cause.text
  host.modifyThread fun thread =>
    { thread with panics := thread.panics - 1, inPanicHook := false }

end CrashCapture.Panic
