import CrashCapture.Process.State

/-! Holding the other threads still during a capture. This system cannot do so for its own
process; the first attempt says that, and resuming afterwards is nothing to do.
-/

namespace CrashCapture

/-- What an attempt to hold the other threads still left behind. -/
structure Suspension where
  attempted : Bool := false
  isHeld : Bool := false
  threads : List ThreadId := []
deriving DecidableEq, Repr

namespace Suspension

def isSupported : Bool := false

def begin : Action Suspension := do
  let noted ← .exchange (·.suspensionNoted)
    (fun process => { process with suspensionNoted := true })
  if !noted then
    Action.log .debug .suspension
      ("suspending threads of the current process is not supported; "
        ++ "capturing a running process")
  return { attempted := true }

/-- Lets the threads go on. Without an attempt to hold them that is a mistake of the
caller. -/
def resume (suspension : Suspension) : Action Unit := do
  if !suspension.isHeld && !suspension.attempted then
    Action.log .error .suspension "resume_environment called without a prior suspend"

end Suspension

end CrashCapture
