import CrashCapture.Config
import CrashCapture.Monitor.Activation
import CrashCapture.Process.Reservation

/-! Putting a configuration in force. The settings and the callback are in place before any
monitor is turned on.
-/

namespace CrashCapture.Config

/-- The least depth limit for the backtraces of signals. -/
def leastDepth : Nat := 1

def setMaxDepth (depth : Nat) : Action Unit :=
  .modify fun process => { process with maxDepth := max leastDepth depth }

/-- Reserves threads one after the other, up to one that is refused. Those before it stay
reserved. -/
def reserveEach : List ThreadId → Action (Except Failure Unit)
  | [] => return .ok ()
  | thread :: rest => do
    match ← Reservation.reserve thread with
    | .error failure => return .error failure
    | .ok () => reserveEach rest

/-- What is set before the monitors are turned on. -/
def prepare (config : Config) : Action (Except Failure Unit) := do
  .modify fun process => { process with logger.level := config.logLevel }
  .modify fun process => { process with sigterm := config.sigterm }
  setMaxDepth config.maxDepth
  .modify fun process => { process with callback := config.callback }
  reserveEach config.reserved

/-- Puts the configuration in force. The answer is the selection of monitors that is really
on then. -/
def install (config : Config) (host : Host) : Action (Except Failure Selection) := do
  match ← config.prepare with
  | .error failure => return .error failure
  | .ok () =>
    let active ← Activation.setActive host config.monitors
    if active = config.monitors then
      Action.diagnose .info .config ("Crash capture active: " ++ active.text)
    else
      Action.diagnose .warn .config
        ("Requested monitors " ++ config.monitors.text ++ ", enabled " ++ active.text)
    Action.diagnose .debug .config
      ("SIGTERM monitoring " ++ (if config.sigterm then "true" else "false")
        ++ ", max depth " ++ Digits.decimal config.maxDepth)
    return .ok active

end CrashCapture.Config
