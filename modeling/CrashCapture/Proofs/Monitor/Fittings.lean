import CrashCapture.Proofs.Monitor.Aside

/-! What monitors fit into a process besides handlers: stacks that threads register, and the
hook of panics. Logs, identifiers and the handlers themselves show nothing of it.
-/

namespace CrashCapture

open Steps

-----------------------------------------------------------------------------------------
-- Stacks and hooks
-----------------------------------------------------------------------------------------

/-- The flags of the monitors, what belongs to the threads, and the stack and the hook that
stand in for earlier ones.
-/
structure Fittings where
  enabled : Selection
  threads : ThreadId → ThreadState
  altStack : Option Address
  previousStack : Option Address
  mapped : List Address
  hook : PanicHook
  previousHook : Option PanicHook
  hookInstalled : Bool

def Process.fittings (process : Process) : Fittings where
  enabled := process.enabled
  threads := process.threads
  altStack := process.altStack
  previousStack := process.previousStack
  mapped := process.mapped
  hook := process.hook
  previousHook := process.previousHook
  hookInstalled := process.hookInstalled

/-- The panic monitor's flag and its hook. -/
structure Hooks where
  enabled : Bool
  hook : PanicHook
  previous : Option PanicHook
  installed : Bool

def Process.hooks (process : Process) : Hooks where
  enabled := process.enabled.panic
  hook := process.hook
  previous := process.previousHook
  installed := process.hookInstalled

def Fittings.hooks (fittings : Fittings) : Hooks where
  enabled := fittings.enabled.panic
  hook := fittings.hook
  previous := fittings.previousHook
  installed := fittings.hookInstalled

/-- A computation that changes nothing of what is fitted, whatever others do in between. -/
abbrev Action.Detached {α : Type} (action : Action α) : Prop :=
  action.NeverTouches Process.fittings

-----------------------------------------------------------------------------------------
-- What shows nothing of them
-----------------------------------------------------------------------------------------

/-- Nothing is fitted by what is put on record, events included. -/
theorem Action.hidden_fittings : Hidden Process.fittings where
  recorded _ _ _ := rfl

/-- Identifiers are not fitted anywhere. -/
theorem Host.hidden_fittings : Hidden Process.fittings where
  issued _ _ := rfl
  kept _ _ := rfl

/-- Handlers are not among what is fitted. -/
theorem Handlers.hidden_fittings : Hidden Process.fittings where
  toHidden := Action.hidden_fittings
  disposition _ _ _ := rfl
  table _ _ := rfl

-----------------------------------------------------------------------------------------
-- Quiet steps
-----------------------------------------------------------------------------------------

/-- A computation that neither decides anything nor shows in what is fitted. -/
abbrev Action.Quiet {α : Type} (action : Action α) : Prop :=
  action.Leaves fun process => (process.core, process.fittings)

/-- What decides and what is fitted together show nothing of holding threads still. -/
theorem Suspension.hidden_quiet : Hidden fun process => (process.core, process.fittings) where
  toHidden := Action.hidden_core.prod Action.hidden_fittings
  noted _ _ := rfl

/-- What decides and what is fitted together show nothing of logs. -/
theorem Action.hidden_quiet : Hidden fun process => (process.core, process.fittings) :=
  Suspension.hidden_quiet.toHidden

/-- What decides and what is fitted together show nothing of identifiers. -/
theorem Host.hidden_quiet : Hidden fun process => (process.core, process.fittings) where
  issued _ _ := rfl
  kept _ _ := rfl

end CrashCapture
