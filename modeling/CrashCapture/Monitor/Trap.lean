import CrashCapture.Monitor.Pipeline

/-! The signal monitor's handler, and how the kernel delivers signals. A signal stays blocked
while its handler runs; when it is raised again meanwhile, it is delivered once afterwards,
to whatever is installed by then.
-/

namespace CrashCapture.Trap

/-- The event of a trapped signal. -/
def event (signal : FatalSignal) (cause : SignalCause) (id : EventId) (context : Context)
    (maxDepth : Nat) (crashedDuring : Bool)
    : Event where
  id := id
  monitor := Monitor.signal.id
  signal := signal.number
  code := cause.code
  faultAddress := if signal.carriesAddress then cause.address else .null
  registersAreValid := true
  crashedDuring := crashedDuring
  context := context
  cursor := context.cursor maxDepth

/-- The identifier for the next event, read one half after the other. -/
def loadId : Action EventId := do
  let high ← .ask (·.signalId.high)
  let low ← .ask (·.signalId.low)
  return ⟨high, low⟩

/-- Captures the thread that a signal stopped and sends the event through the pipeline. -/
def capture (host : Host) (signal : FatalSignal) (cause : SignalCause) : Action Unit := do
  let suspension ← Suspension.begin
  let crashedDuring ← Pipeline.notifyFatal host true
  let context ← Action.hear
    (Context.captureSignal host.surroundings {} (some host.registers))
  let maxDepth ← .ask (·.maxDepth)
  let id ← loadId
  let _ ← Pipeline.handle host (event signal cause id context maxDepth crashedDuring)
  suspension.resume

/-- Leaves a signal to what was installed before. -/
def decline (host : Host) : Action Unit := do
  let _ ← Activation.swap .signal false
  Activation.uninstallSignals host
  Pipeline.notifyUnhandled

/-- Whether a signal is captured; termination only when that was asked for. -/
def isWanted (signal : FatalSignal) (sigterm : Bool) : Bool :=
  signal ≠ .terminate || sigterm

/-- Raises a signal that is blocked. -/
def raiseBlocked (host : Host) (signal : FatalSignal) : Action Unit :=
  host.modifyThread fun thread =>
    { thread with pending := thread.pending.erase signal ++ [signal] }

/-- The handler that the monitor installs. It always raises the signal again, so that the
process dies as it would have without it. -/
def handler (host : Host) (signal : FatalSignal) (cause : SignalCause) : Action Unit := do
  Action.log .debug .signalMonitor
    ("trapped signal " ++ Digits.decimal signal.number)
  let isOn ← .ask (·.enabled.signal)
  let sigterm ← .ask (·.sigterm)
  if isOn && isWanted signal sigterm then capture host signal cause
  else decline host
  Action.log .debug .signalMonitor
    ("re-raising signal " ++ Digits.decimal signal.number)
  raiseBlocked host signal

/-- Runs a handler with its signal blocked, on the alternate stack when it asks for that and
there is one. -/
def inHandler (host : Host) (signal : FatalSignal) (asksAltStack : Bool)
    (body : Action Unit)
    : Action Unit := do
  let before ← host.askThread id
  host.modifyThread fun thread => { thread with
    blocked := signal :: thread.blocked
    onAltStack := thread.onAltStack || asksAltStack && thread.altStack.isSome }
  body
  host.modifyThread fun thread => { thread with
    blocked := before.blocked
    onAltStack := before.onAltStack }

/-- Whether a signal was raised while it was blocked; it is pending no longer. -/
def takePending (host : Host) (signal : FatalSignal) : Action Bool :=
  .exchange (fun process => (process.threads host.thread).pending.contains signal)
    (·.updateThread host.thread fun thread =>
      { thread with pending := thread.pending.erase signal })

/-- What is said when a stack is used up. -/
def overflowText : String :=
  "\nthread 'main' has overflowed its stack\nfatal runtime error: stack overflow, aborting\n"

/-- A fault that does not end the stack is left to what the signal does by default. -/
def standDown (host : Host) (signal : FatalSignal) : Action Unit := do
  let _ ← Handlers.setDisposition host.kernel.restore signal .standard
  return ()

/-- How often a signal may come back to a handler before that is held to go on forever. -/
def roundLimit : Nat := 8

/-- Delivers a signal, and again when it was raised meanwhile. -/
def deliverWithin (host : Host) : Nat → FatalSignal → SignalCause → Action Unit
  | 0, _, _ => Action.finish .livelock
  | rounds + 1, signal, cause => do
    match ← .ask (·.dispositions signal) with
    | .standard => Action.finish (.signal signal.number)
    | .ignored => return ()
    | .own id => inHandler host signal false (host.onSignal id signal)
    | .guard =>
      inHandler host signal true do
        if host.isGuarded cause.address then
          Action.say .error overflowText
          deliverWithin host rounds .abort .sentByItself
          Action.finish (.signal FatalSignal.abort.number)
        else standDown host signal
    | .capture => inHandler host signal true (handler host signal cause)
    if ← takePending host signal then deliverWithin host rounds signal .sentByItself

/-- Sends a fatal signal to the running thread. -/
def send (host : Host) (signal : FatalSignal) (cause : SignalCause) : Action Unit := do
  if ← host.askThread (·.blocked.contains signal) then raiseBlocked host signal
  else deliverWithin host roundLimit signal cause

/-- Sends any signal to the running thread. Signals that are not fatal ones do what they do
by default. -/
def sendNumber (host : Host) (number : Int) (cause : SignalCause) : Action Unit :=
  match FatalSignal.ofNumber? number with
  | some signal => send host signal cause
  | none =>
    if number ≤ 0 ∨ signalLimit < number ∨ quietSignals.contains number.toNat then
      return ()
    else Action.finish (.signal number.toNat)

/-- A fault that comes back as long as a handler returns to it. -/
def fault (host : Host) (signal : FatalSignal) (cause : SignalCause) : Nat → Action Unit
  | 0 => Action.finish .livelock
  | rounds + 1 => do
    send host signal cause
    fault host signal cause rounds

/-- Ends the process by a signal; when a handler of its own returns from it, by force. -/
def abort {α : Type} (host : Host) : Action α := do
  host.modifyThread fun thread =>
    { thread with blocked := thread.blocked.filter (· ≠ .abort) }
  send host .abort .sentByItself
  Action.finish (.signal FatalSignal.abort.number)

end CrashCapture.Trap
