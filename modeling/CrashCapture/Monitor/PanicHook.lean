import CrashCapture.Process.State

/-! Putting the panic monitor's hook in front of the one that was there. The hook cannot be
replaced while the thread panics, nor while a fatal failure is being handled; then it stays,
and only hands panics on.
-/

namespace CrashCapture.PanicHook

/-- Whether the hook may be replaced now. -/
def isFree (host : Host) (process : Process) : Bool :=
  (process.threads host.thread).panics = 0 && !process.handling

/-- Takes the hook out; panics that come now find the standard one. -/
def take : Action PanicHook :=
  .exchange (·.hook) fun process => { process with hook := .standard }

def set (hook : PanicHook) : Action Unit :=
  .modify fun process => { process with hook := hook }

def markInstalled (installed : Bool) : Action Unit :=
  .modify fun process => { process with hookInstalled := installed }

def refusal : Failure :=
  .hookInstall "panic hook" "cannot replace the panic hook while a failure is being handled"

/-- Installs the monitor's hook, unless it is in place already. -/
def install (host : Host) : Action (Except Failure Unit) := do
  if ← .ask (·.hookInstalled) then return .ok ()
  if !(← .ask (isFree host)) then return .error refusal
  let previous ← take
  .modify fun process => { process with previousHook := some previous }
  set .capture
  markInstalled true
  Action.diagnose .debug .panicMonitor "Installed panic hook"
  return .ok ()

/-- Puts the earlier hook back, unless the hook cannot be replaced now. -/
def remove (host : Host) : Action Unit := do
  if !(← .ask (·.hookInstalled)) then return ()
  if !(← .ask (isFree host)) then return ()
  let _ ← take
  let previous ← .exchange (·.previousHook)
    fun process => { process with previousHook := none }
  match previous with
  | some hook => set hook
  | none => pure ()
  markInstalled false
  Action.diagnose .debug .panicMonitor "Restored previous panic hook"

end CrashCapture.PanicHook
