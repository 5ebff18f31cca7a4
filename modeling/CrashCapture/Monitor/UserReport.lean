import CrashCapture.Monitor.Panic
import CrashCapture.Text.Quoted

/-! Failures that the program reports itself. No fault happened, so no registers are
captured; the backtrace starts at the call that made the report.
-/

namespace CrashCapture

structure UserReport where
  name : String
  reason : Option String := none
  language : Option String := none
  line : Option String := none
  trace : List String := []
  /-- Hold the other threads still while capturing. -/
  logAllThreads : Bool := false
  /-- End the process once the report is delivered. -/
  terminate : Bool := false
deriving DecidableEq, Repr

namespace UserReport

/-- The frames of the reporting function itself. -/
def skippedFrames : Nat := 1

def maxDepth : Nat := 100

/-- Captures the calling thread and sends the event through the pipeline. -/
def capture (report : UserReport) (host : Host) (id : EventId) : Action Unit := do
  let suspension ←
    if report.logAllThreads then some <$> Suspension.begin else pure none
  let crashedDuring ←
    if report.terminate then Pipeline.notifyFatal host false else pure false
  let context ← Action.hear
    (Context.captureThread host.surroundings {} host.thread true)
  let _ ← Pipeline.handle host {
    id := id
    monitor := Monitor.user.id
    reason := report.reason
    exception := some {
      name := report.name
      language := report.language
      line := report.line
      trace := report.trace }
    isUserReported := true
    isFatal := false
    crashedDuring := crashedDuring
    context := context
    cursor := Panic.ownCursor host skippedFrames maxDepth }
  match suspension with
  | some suspension => suspension.resume
  | none => return ()

/-- Sends a report, which is dropped while the monitor is off. -/
def submit (report : UserReport) (host : Host) : Action Unit := do
  if ← .ask (·.enabled.user) then
    let id ← host.issue
    Action.diagnose .debug .userMonitor
      ("Reporting user exception " ++ report.name ++ " as event " ++ id.text)
    report.capture host id
    if report.terminate then Trap.abort host
  else
    Action.diagnose .warn .userMonitor
      ("User-reported exception monitor is disabled; dropping report "
        ++ Text.quoted report.name)

end UserReport

end CrashCapture
