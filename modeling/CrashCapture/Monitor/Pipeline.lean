import CrashCapture.Monitor.Activation
import CrashCapture.Process.Suspension

/-! What every failure goes through: the process notes that a fatal failure is being handled,
enabled monitors may add to the event, the callback gets it, and after a fatal event every
monitor is off, so that the failure ends the process as it would have without them.
-/

namespace CrashCapture.Pipeline

/-- Notes that a fatal failure is being handled. When one is being handled already, the
capture itself failed: every monitor is turned off and the answer is `true`. -/
def notifyFatal (host : Host) (inSignalHandler : Bool) : Action Bool := do
  if inSignalHandler then
    .modify fun process => { process with asyncSafety := true }
  let again ← .exchange (·.handling) fun process => { process with handling := true }
  if !again then return false
  .modify fun process => { process with crashedDuring := true }
  Action.log .error .monitors "crashed while handling a crash; disabling all monitors"
  Activation.disableAll host
  return true

/-- Notes that a fatal signal came while its monitor was not handling it. -/
def notifyUnhandled : Action Unit :=
  .modify fun process => { process with unhandled := true }

/-- What a monitor adds to an event. A failure that is no signal ends in an abort. -/
def annotate (event : Event) : Monitor → Event
  | .signal =>
    if event.monitor = Monitor.signal.id then event
    else { event with signal := FatalSignal.abort.number }
  | _ => event

/-- Lets each monitor that is on when its turn comes add to an event. -/
def annotateEach (event : Event) : List Monitor → Action Event
  | [] => return event
  | monitor :: rest => do
    let isOn ← .ask (·.enabled.contains monitor)
    annotateEach (if isOn then annotate event monitor else event) rest

/-- Hands an event to the callback, if there is one. -/
def deliver (host : Host) (event : Event) : Action Event := do
  if ← .ask (·.callback) then host.onEvent event
  else
    Action.log .warn .monitors
      ("no event callback registered; dropping event " ++ event.id.text)
    return event

/-- Completes, delivers and finishes an event. The answer is the event in the end. -/
def handle (host : Host) (event : Event) : Action Event := do
  let crashedDuring ← .ask (·.crashedDuring)
  let event ← annotateEach
    { event with crashedDuring := event.crashedDuring || crashedDuring } Monitor.all
  let event ← deliver host event
  if event.isFatal then Activation.disableAll host
  return event

end CrashCapture.Pipeline
