import CrashCapture.Proofs.Monitor.Hidden

/-! What the monitors' work is about, and what lies aside from it. Whether a failure is
caught, delivered and handed on is decided by the monitors that are on, the marks of failures
being handled and the dispositions of signals; stacks, hooks, threads, logs and identifiers
are changed on the way and decide nothing of that.
-/

namespace CrashCapture

-----------------------------------------------------------------------------------------
-- The part of a process that decides
-----------------------------------------------------------------------------------------

/-- The events that were delivered, in their order. -/
def Process.events (process : Process) : List Event :=
  process.happenings.filterMap Happening.event?

/-- What the monitors and the pipeline go by, the dispositions of signals apart. -/
structure Watch where
  enabled : Selection
  callback : Bool
  sigterm : Bool
  handling : Bool
  crashedDuring : Bool
  events : List Event

def Process.watch (process : Process) : Watch where
  enabled := process.enabled
  callback := process.callback
  sigterm := process.sigterm
  handling := process.handling
  crashedDuring := process.crashedDuring
  events := process.events

/-- What is installed for signals, and what was there before. -/
structure Installed where
  dispositions : FatalSignal → Disposition
  table : HandlerTable

def Process.installed (process : Process) : Installed where
  dispositions := process.dispositions
  table := process.table

/-- All that decides what becomes of a failure. -/
def Process.core (process : Process) : Watch × Installed := (process.watch, process.installed)

/-- What is on record of failures: the mark of one being handled, the events that were delivered
and the identifiers that were given out.
-/
structure Ledger where
  handling : Bool
  events : List Event
  signalId : EventId
  issued : Nat

def Process.ledger (process : Process) : Ledger where
  handling := process.handling
  events := process.events
  signalId := process.signalId
  issued := process.issued

/-- A computation whose steps decide nothing. -/
abbrev Action.Aside {α : Type} (action : Action α) : Prop := action.Leaves Process.core

/-- A computation none of whose steps could decide anything or put it on record, whatever others
do in between.
-/
abbrev Action.Apart {α : Type} (action : Action α) : Prop :=
  action.NeverTouches fun process => (process.core, process.ledger)

/-- What puts nothing on record decides nothing either. -/
theorem Action.Apart.aside {α : Type} {action : Action α} (apart : action.Apart)
    : action.Aside := apart.leaves.comp Prod.fst

-----------------------------------------------------------------------------------------
-- What decides nothing
-----------------------------------------------------------------------------------------

/-- Only events count among what is on record. -/
theorem Process.events_record_silent {happening : Happening} (silent : happening.event? = none)
    (process : Process)
    : (process.record happening).events = process.events := by
  simp [events, record, List.filterMap_append, silent]

/-- A record that is no event is nothing to go by. -/
theorem Process.watch_record {happening : Happening} (silent : happening.event? = none)
    (process : Process)
    : (process.record happening).watch = process.watch :=
  congrArg (fun events => { process.watch with events }) (process.events_record_silent silent)

/-- A record that is no event decides nothing. -/
theorem Process.core_record {happening : Happening} (silent : happening.event? = none)
    (process : Process)
    : (process.record happening).core = process.core :=
  congrArg (fun watch => (watch, process.installed)) (process.watch_record silent)

/-- Nor is it on record of failures. -/
theorem Process.ledger_record {happening : Happening} (silent : happening.event? = none)
    (process : Process)
    : (process.record happening).ledger = process.ledger :=
  congrArg (fun events => { process.ledger with events }) (process.events_record_silent silent)

/-- What is said, logged and heard decides nothing. -/
theorem Action.hidden_core : Hidden Process.core where
  recorded process _ silent := process.core_record silent

/-- What is said, logged and heard is not on record of failures. -/
theorem Action.hidden_ledger : Hidden Process.ledger where
  recorded process _ silent := process.ledger_record silent

/-- What is said, logged and heard is apart from both. -/
theorem Action.hidden_apart : Hidden fun process => (process.core, process.ledger) :=
  hidden_core.prod hidden_ledger

/-- An attempt to hold threads still decides nothing. -/
theorem Suspension.hidden_core : Hidden Process.core where
  toHidden := Action.hidden_core
  noted _ _ := rfl

/-- An attempt to hold threads still is not on record of failures either. -/
theorem Suspension.hidden_apart : Hidden fun process => (process.core, process.ledger) where
  toHidden := Action.hidden_apart
  noted _ _ := rfl

/-- Identifiers decide nothing. -/
theorem Host.hidden_core : Hidden Process.core where
  issued _ _ := rfl
  kept _ _ := rfl

/-- Stacks that handlers may run on decide nothing. -/
theorem AltStack.hidden_core : Hidden Process.core where
  toHidden := Action.hidden_core
  mapping _ _ _ _ _ := rfl
  registered _ _ _ := rfl

/-- The hook of panics decides nothing. -/
theorem PanicHook.hidden_core : Hidden Process.core where
  toHidden := Action.hidden_core
  hooks _ _ _ _ := rfl

/-- The hook is not on record of failures. -/
theorem PanicHook.hidden_ledger : Hidden Process.ledger where
  toHidden := Action.hidden_ledger
  hooks _ _ _ _ := rfl

/-- Neither stacks nor handlers are on record of failures. -/
theorem Activation.hidden_ledger : Hidden Process.ledger where
  toHidden := Action.hidden_ledger
  mapping _ _ _ _ _ := rfl
  registered _ _ _ := rfl
  disposition _ _ _ := rfl
  table _ _ := rfl

/-- The end of a process is none of what it goes by. -/
theorem Action.apart_finish {α : Type} (ending : Ending)
    : (Action.finish ending : Action α).Apart := ⟨fun _ => rfl, fun _ => trivial⟩

/-- A look at a thread changes nothing. -/
theorem Host.apart_askThread {α : Type} (host : Host) (look : ThreadState → α)
    : (host.askThread look).Apart := .ask _

/-- What belongs to a thread alone decides nothing. -/
theorem Host.apart_modifyThread (host : Host) (change : ThreadState → ThreadState)
    : (host.modifyThread change).Apart := .modify fun _ => rfl

/-- A signal that is blocked waits at its thread, where it decides nothing yet. -/
theorem Trap.apart_raiseBlocked (host : Host) (signal : FatalSignal)
    : (raiseBlocked host signal).Apart := host.apart_modifyThread _

/-- A signal that waited no longer waits, which decides nothing by itself. -/
theorem Trap.apart_takePending (host : Host) (signal : FatalSignal)
    : (takePending host signal).Apart := .exchange fun _ => rfl

-----------------------------------------------------------------------------------------
-- What only changes what is installed
-----------------------------------------------------------------------------------------

/-- A computation that installs or removes handlers at most. -/
abbrev Action.Unwatched {α : Type} (action : Action α) : Prop := action.Leaves Process.watch

/-- What decides nothing installs nothing. -/
theorem Action.Aside.unwatched {α : Type} {action : Action α} (aside : action.Aside)
    : action.Unwatched := aside.comp Prod.fst

/-- What monitors go by shows nothing of what is said, logged and heard. -/
theorem Action.hidden_watch : Hidden Process.watch := hidden_core.comp Prod.fst

/-- What monitors go by shows nothing of attempts to hold threads still. -/
theorem Suspension.hidden_watch : Hidden Process.watch where
  toHidden := Action.hidden_watch
  noted _ _ := rfl

/-- Monitors go by no identifier. -/
theorem Host.hidden_watch : Hidden Process.watch where
  issued _ _ := rfl
  kept _ _ := rfl

/-- Monitors do not go by the hook that is in place. -/
theorem PanicHook.hidden_watch : Hidden Process.watch where
  toHidden := Action.hidden_watch
  hooks _ _ _ _ := rfl

/-- Monitors do not go by the stacks and handlers that are installed. -/
theorem Activation.hidden_watch : Hidden Process.watch where
  toHidden := Action.hidden_watch
  mapping _ _ _ _ _ := rfl
  registered _ _ _ := rfl
  disposition _ _ _ := rfl
  table _ _ := rfl

namespace Activation

/-- Swapping a flag is one step, which answers what the flag was. -/
@[simp]
theorem ensures_swap {always : Process → Prop} {post : Bool → Process → Prop}
    {monitor : Monitor} {on : Bool} {process : Process}
    : (swap monitor on).Ensures always post process
      ↔ always { process with enabled := process.enabled.put on monitor }
        ∧ post (process.enabled.contains monitor)
            { process with enabled := process.enabled.put on monitor } := Iff.rfl

/-- Installing for signals leaves all that monitors go by as it is, whether it succeeds or not.
-/
theorem unwatched_installSignals (host : Host) : (installSignals host).Unwatched :=
  (hidden_watch.installSignals Host.hidden_watch host).leaves

/-- Removing what is installed for signals leaves all that monitors go by as it is. -/
theorem unwatched_uninstallSignals (host : Host) : (uninstallSignals host).Unwatched :=
  (hidden_watch.uninstallSignals host).leaves

end Activation

end CrashCapture
