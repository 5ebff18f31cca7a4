import CrashCapture.Process.State

/-! The stack that the handler runs on, so that a failure that used up the ordinary stack
can still be reported. It is mapped once, with a page in front of it that nothing may touch,
and registered for the thread that enables the monitor.
-/

namespace CrashCapture.AltStack

/-- The bytes of the stack, without the guard page. -/
def size : Nat := 65536

/-- A failed step of setting up the stack. -/
def fault (step : String) (errno : Errno) : Failure :=
  .altStack (step ++ ": " ++ (IoError.os errno).message)

/-- Maps a stack, unless one is mapped already. -/
def provide (host : Host) : Action (Except Failure Address) := do
  match ← .ask (·.altStack) with
  | some stack => return .ok stack
  | none =>
    match host.kernel.mapStack with
    | some errno => return .error (fault "mmap" errno)
    | none =>
      let stack ← .exchange (fun process => host.kernel.placement process.mappings)
        fun process => { process with
          mappings := process.mappings + 1
          mapped := host.kernel.placement process.mappings :: process.mapped }
      match host.kernel.guardStack with
      | some errno =>
        .modify fun process => { process with mapped := process.mapped.erase stack }
        return .error (fault "guard page" errno)
      | none =>
        .modify fun process => { process with altStack := some stack }
        Action.diagnose .debug .signalMonitor
          ("Mapped alternate signal stack of " ++ Digits.decimal size ++ " bytes at 0x"
            ++ Digits.hex stack.toNat)
        return .ok stack

/-- The kernel's call: what the running thread had registered before, unless it is refused.
A stack cannot be exchanged for another one while the thread runs on it. -/
def register (host : Host) (stack : Option Address)
    : Action (Except Errno (Option Address)) :=
  match host.kernel.registerStack with
  | some errno => return .error errno
  | none =>
    .exchange
      (fun process =>
        let thread := process.threads host.thread
        if thread.onAltStack then .error .notPermitted else .ok thread.altStack)
      (·.updateThread host.thread fun thread =>
        if thread.onAltStack then thread else { thread with altStack := stack })

/-- Maps the stack, or takes the one that is mapped, and registers it for the running
thread. -/
def install (host : Host) : Action (Except Failure Unit) := do
  match ← provide host with
  | .error failure => return .error failure
  | .ok stack =>
    match ← register host (some stack) with
    | .error errno => return .error (fault "sigaltstack" errno)
    | .ok previous =>
      if previous ≠ none ∧ previous ≠ some stack then
        .modify fun process => { process with previousStack := previous }
      return .ok ()

/-- Gives the running thread back what it had before, and unmaps the stack. A stack that the
thread is running on stays. -/
def release (host : Host) : Action Unit := do
  match ← .ask (·.altStack) with
  | none => return ()
  | some stack =>
    if ← host.askThread (·.onAltStack) then return ()
    let previous ← .exchange (·.previousStack)
      fun process => { process with previousStack := none }
    let _ ← register host previous
    .modify fun process => { process with
      mapped := process.mapped.erase stack
      altStack := none }

end CrashCapture.AltStack
