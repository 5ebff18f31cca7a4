import CrashCapture.Process.State

/-! Installing the signal monitor's handler in place of others, and putting those back. What
a signal did before is saved right after it was replaced; when a later signal is refused,
the earlier ones get back what they had.
-/

namespace CrashCapture.Handlers

/-- The kernel's call: the disposition that was there before, unless it is refused. -/
def setDisposition (refusal : FatalSignal → Option Errno) (signal : FatalSignal)
    (new : Disposition)
    : Action (Except Errno Disposition) :=
  match refusal signal with
  | some errno => return .error errno
  | none =>
    .exchange (fun process => .ok (process.dispositions signal))
      (·.setDisposition signal new)

def save (index : Fin savedCapacity) (signal : FatalSignal) (previous : Disposition)
    : Action Unit :=
  .modify fun process =>
    { process with table.slots := process.table.slots.set index (some (signal, previous)) }

def count (installed : Nat) : Action Unit :=
  .modify fun process => { process with table.installed := installed }

/-- Empties a slot. -/
def takeSlot (index : Fin savedCapacity) : Action (Option (FatalSignal × Disposition)) :=
  .exchange (·.table.slots[index])
    fun process => { process with table.slots := process.table.slots.set index none }

/-- The counter's value, which becomes zero. -/
def takeCount : Action Nat :=
  .exchange (·.table.installed) fun process => { process with table.installed := 0 }

/-- Puts back what the slots hold, one after the other. -/
def restoreSlots (host : Host) : List (Fin savedCapacity) → Action Unit
  | [] => return ()
  | index :: rest => do
    match ← takeSlot index with
    | none => pure ()
    | some (signal, previous) =>
      match ← setDisposition host.kernel.restore signal previous with
      | .ok _ => pure ()
      | .error errno =>
        Action.log .error .signalMonitor
          ("restoring " ++ signal.name ++ ": " ++ errno.named)
    restoreSlots host rest

/-- Puts back every saved disposition, in the order of installing. -/
def restore (host : Host) : Action Unit := do
  let installed ← takeCount
  restoreSlots host ((List.finRange savedCapacity).take installed)

/-- Installs the handler for each signal and saves what was there in the signal's slot. -/
def installEach (host : Host)
    : List (FatalSignal × Fin savedCapacity) → Action (Except Failure Unit)
  | [] => return .ok ()
  | (signal, index) :: rest => do
    match ← setDisposition host.kernel.install signal .capture with
    | .ok previous =>
      save index signal previous
      count (index + 1)
      installEach host rest
    | .error errno =>
      Action.log .error .signalMonitor
        ("sigaction (" ++ signal.name ++ "): " ++ errno.named)
      restore host
      return .error (.hookInstall signal.name errno.named)

/-- Installs the handler for every fatal signal. -/
def install (host : Host) : Action (Except Failure Unit) :=
  installEach host (FatalSignal.all.zip (List.finRange savedCapacity))

end CrashCapture.Handlers
