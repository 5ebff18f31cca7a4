import CrashCapture.Monitor.AltStack
import CrashCapture.Monitor.Handlers
import CrashCapture.Monitor.PanicHook

/-! Turning monitors on and off. A monitor is on only when everything that it needs is
installed; one that fails to be turned on keeps no other from being turned on or off.
-/

namespace CrashCapture

open Log (Level Origin)

namespace Activation

/-- Sets a monitor's flag and tells what it was. -/
def swap (monitor : Monitor) (on : Bool) : Action Bool :=
  .exchange (·.enabled.contains monitor)
    fun process => { process with enabled := process.enabled.put on monitor }

/-- The stack first, then the handlers; when those are refused, the stack is given back. -/
def installHandlers (host : Host) : Action (Except Failure Unit) := do
  match ← AltStack.install host with
  | .error failure => return .error failure
  | .ok () =>
    match ← Handlers.install host with
    | .ok () => return .ok ()
    | .error failure =>
      AltStack.release host
      return .error failure

/-- Keeps an identifier for the next event, one half after the other. -/
def storeId (id : EventId) : Action Unit := do
  .modify fun process => { process with signalId.high := id.high }
  .modify fun process => { process with signalId.low := id.low }

/-- Takes a new identifier for the next event and installs handlers for all fatal
signals. -/
def installSignals (host : Host) : Action (Except Failure Unit) := do
  let id ← host.issue
  storeId id
  match ← installHandlers host with
  | .error failure => return .error failure
  | .ok () =>
    Action.diagnose .debug .signalMonitor
      ("Installed handlers for " ++ Digits.decimal FatalSignal.all.length ++ " signals")
    return .ok ()

def uninstallSignals (host : Host) : Action Unit := do
  Handlers.restore host
  AltStack.release host

/-- The signal monitor's flag changes first; it is taken back when installing fails. -/
def setSignals (host : Host) (on : Bool) : Action (Except Failure Unit) := do
  if (← swap .signal on) = on then return .ok ()
  if !on then
    uninstallSignals host
    return .ok ()
  match ← installSignals host with
  | .ok () => return .ok ()
  | .error failure =>
    let _ ← swap .signal false
    return .error failure

/-- The panic monitor's flag is set after its hook is installed, and cleared before the hook
is removed. -/
def setPanics (host : Host) (on : Bool) : Action (Except Failure Unit) := do
  if (← .ask (·.enabled.panic)) = on then return .ok ()
  if !on then
    let _ ← swap .panic false
    PanicHook.remove host
    return .ok ()
  match ← PanicHook.install host with
  | .error failure => return .error failure
  | .ok () =>
    let _ ← swap .panic true
    return .ok ()

/-- Turns a monitor on or off; one that is so already stays as it is. -/
def setEnabled (host : Host) (on : Bool) : Monitor → Action (Except Failure Unit)
  | .signal => setSignals host on
  | .panic => setPanics host on
  | .user => do
    let _ ← swap .user on
    return .ok ()

/-- Turns some monitors on and off, one after the other. -/
def setEach (host : Host) (requested : Selection) : List Monitor → Action Unit
  | [] => return ()
  | monitor :: rest => do
    let on := requested.contains monitor
    match ← setEnabled host on monitor with
    | .ok () => pure ()
    | .error failure =>
      Action.diagnose .warn .monitors
        ("Could not " ++ (if on then "enable" else "disable") ++ " monitor " ++ monitor.id
          ++ ": " ++ failure.brief)
    setEach host requested rest

/-- Turns the requested monitors on and all others off. The answer is the selection that is
really on then. -/
def setActive (host : Host) (requested : Selection) : Action Selection := do
  setEach host requested Monitor.all
  let active ← .ask (·.enabled)
  Action.diagnose .debug .monitors ("Active monitors: " ++ active.text)
  return active

/-- Turns some monitors off; what goes wrong is logged where a fault handler may log. -/
def disableEach (host : Host) : List Monitor → Action Unit
  | [] => return ()
  | monitor :: rest => do
    match ← setEnabled host false monitor with
    | .ok () => pure ()
    | .error failure =>
      Action.log .error .monitors
        ("could not disable monitor " ++ monitor.id ++ ": " ++ failure.brief)
    disableEach host rest

def disableAll (host : Host) : Action Unit := disableEach host Monitor.all

end Activation

end CrashCapture
