import CrashCapture.Monitor.UserReport
import CrashCapture.Proofs.Process.Stepwise

/-! What each function of the monitors can change of a process, for every view of one. A view
shows nothing of a step when it is the same before and after; the parts of a process that a
function works on are named here once, and a view that shows nothing of them is one that the
function never touches.
-/

namespace CrashCapture

open Steps

variable {τ υ : Type} {view : Process → τ}

def Happening.event? : Happening → Option Event
  | .event delivered _ => some delivered
  | _ => none

-----------------------------------------------------------------------------------------
-- Records that are no events
-----------------------------------------------------------------------------------------

namespace Action

/-- A view shows nothing of what is put on record, apart from events. -/
structure Hidden (view : Process → τ) : Prop where
  recorded
    : ∀ (process : Process) {happening : Happening},
        happening.event? = none → view (process.record happening) = view process

namespace Hidden

/-- Two views that show nothing of records show nothing of them together. -/
theorem prod {other : Process → υ} (left : Hidden view) (right : Hidden other)
    : Hidden fun process => (view process, other process) where
  recorded process _ silent :=
    Prod.ext (left.recorded process silent) (right.recorded process silent)

variable (hidden : Hidden view)
include hidden

/-- A part of such a view is one. -/
theorem comp (part : τ → υ) : Hidden fun process => part (view process) where
  recorded process _ silent := congrArg part (hidden.recorded process silent)

/-- A line of the log is a record like others, or is not written at all. -/
theorem logged (process : Process) (notice : Log.Notice)
    : view (process.log notice) = view process := by
  unfold Process.log
  split
  · exact hidden.recorded process rfl
  · rfl

/-- To put something on record that is no event is hidden by assumption. -/
theorem record {happening : Happening} (silent : happening.event? = none)
    : (Action.record happening).NeverTouches view :=
  .modify fun process => hidden.recorded process silent

/-- A line that the program logs is hidden. -/
theorem log (level : Log.Level) (origin : Log.Origin) (text : String)
    : (Action.log level origin text).NeverTouches view :=
  .modify fun process => hidden.logged process _

/-- A line for whoever diagnoses the program is hidden. -/
theorem diagnose (level : Log.Level) (origin : Log.Origin) (text : String)
    : (Action.diagnose level origin text).NeverTouches view := hidden.record rfl

/-- A text on one of the channels is hidden. -/
theorem say (channel : Channel) (text : String)
    : (Action.say channel text).NeverTouches view := hidden.record rfl

/-- A line for each notice is all that is added, by induction on the notices. -/
theorem hear {α : Type} (noted : Log.Noted α) : (Action.hear noted).NeverTouches view := by
  refine ⟨fun process => ?_, fun _ => trivial⟩
  generalize noted.notices = notices
  induction notices generalizing process with
  | nil => rfl
  | cons notice rest ih => exact (ih _).trans (hidden.logged process notice)

/-- Going on after a capture only tells when it was asked for by mistake. -/
theorem resume (suspension : Suspension) : suspension.resume.NeverTouches view := by
  unfold Suspension.resume
  split
  · exact hidden.log _ _ _
  · exact .pure _

end Hidden

end Action

/-- A view shows nothing of an attempt to hold the other threads still. -/
structure Suspension.Hidden (view : Process → τ) : Prop extends Action.Hidden view where
  noted
    : ∀ (process : Process) (noted : Bool),
        view { process with suspensionNoted := noted } = view process

/-- The attempt is noted in one step, and told about unless it was noted before. -/
theorem Suspension.Hidden.begin (hidden : Suspension.Hidden view)
    : Suspension.begin.NeverTouches view := by
  refine .bind (.exchange fun process => hidden.noted process true) fun noted => ?_
  dsimp only
  split
  · exact .bind (hidden.log _ _ _) fun _ => .pure _
  · exact .pure _

-----------------------------------------------------------------------------------------
-- Identifiers
-----------------------------------------------------------------------------------------

/-- A view shows nothing of the identifiers that are given out and kept. -/
structure Host.Hidden (view : Process → τ) : Prop where
  issued
    : ∀ (process : Process) (issued : Nat),
        view { process with issued := issued } = view process
  kept
    : ∀ (process : Process) (signalId : EventId),
        view { process with signalId := signalId } = view process

namespace Host.Hidden

variable (hidden : Host.Hidden view)
include hidden

/-- Giving out an identifier counts up those that were given out, and nothing else. -/
theorem issue (host : Host) : host.issue.NeverTouches view :=
  .exchange fun process => hidden.issued process _

/-- An identifier is kept in two halves, each in a step of its own. -/
theorem storeId (id : EventId) : (Activation.storeId id).NeverTouches view :=
  .bind (.modify fun process => hidden.kept process _) fun _ =>
    .modify fun process => hidden.kept process _

end Host.Hidden

/-- An identifier is only looked at, which no view shows. -/
theorem Trap.loadId_leaves (view : Process → τ) : loadId.Leaves view :=
  .bind (.ask _) fun _ => .bind (.ask _) fun _ => .pure _

-----------------------------------------------------------------------------------------
-- Stacks for handlers
-----------------------------------------------------------------------------------------

namespace AltStack

/-- A view shows nothing of what mapping and registering stacks changes. -/
structure Hidden (view : Process → τ) : Prop extends Action.Hidden view where
  mapping
    : ∀ (process : Process) (altStack previousStack : Option Address)
        (mapped : List Address) (mappings : Nat),
        view { process with
          altStack := altStack
          previousStack := previousStack
          mapped := mapped
          mappings := mappings } = view process
  registered
    : ∀ (process : Process) (thread : ThreadId) (stack : Option Address),
        view (process.updateThread thread fun state =>
          if state.onAltStack then state else { state with altStack := stack }) = view process

namespace Hidden

variable (hidden : Hidden view)
include hidden

/-- Mapping a stack and guarding it are both hidden, and so is what a refusal takes back. -/
theorem provide (host : Host) : (AltStack.provide host).NeverTouches view := by
  refine .bind (.ask _) fun mapped => ?_
  cases mapped with
  | some stack => exact .pure _
  | none =>
      cases host.kernel.mapStack with
      | some errno => exact .pure _
      | none =>
          refine .bind (.exchange fun process => hidden.mapping process _ _ _ _) fun stack => ?_
          cases host.kernel.guardStack with
          | some errno =>
              exact .bind (.modify fun process => hidden.mapping process _ _ _ _) fun _ =>
                .pure _
          | none =>
              refine .bind (.modify fun process => hidden.mapping process _ _ _ _) fun _ => ?_
              exact .bind (hidden.diagnose _ _ _) fun _ => .pure _

/-- Registering a stack is one step on the thread, or a refusal that changes nothing. -/
theorem register (host : Host) (stack : Option Address)
    : (AltStack.register host stack).NeverTouches view := by
  unfold AltStack.register
  cases host.kernel.registerStack with
  | some errno => exact .pure _
  | none => exact .exchange fun process => hidden.registered process host.thread stack

/-- Mapping comes first, and registering only when there is a stack. -/
theorem install (host : Host) : (AltStack.install host).NeverTouches view := by
  refine .bind (hidden.provide host) fun provided => ?_
  cases provided with
  | error failure => exact .pure _
  | ok stack =>
      refine .bind (hidden.register host _) fun registered => ?_
      cases registered with
      | error errno => exact .pure _
      | ok previous =>
          dsimp only
          split
          · exact .bind (.modify fun process => hidden.mapping process _ _ _ _) fun _ => .pure _
          · exact .pure _

/-- Nothing happens without a stack or on it; else it is registered no more and unmapped. -/
theorem release (host : Host) : (AltStack.release host).NeverTouches view := by
  refine .bind (.ask _) fun mapped => ?_
  cases mapped with
  | none => exact .pure _
  | some stack =>
      refine .bind (.ask _) fun onStack => ?_
      split
      · exact .pure _
      · refine .bind (.exchange fun process => hidden.mapping process _ _ _ _) fun previous => ?_
        exact .bind (hidden.register host _) fun _ =>
          .modify fun process => hidden.mapping process _ _ _ _

end Hidden

end AltStack

-----------------------------------------------------------------------------------------
-- Handlers of signals
-----------------------------------------------------------------------------------------

namespace Handlers

/-- A view shows nothing of what installing handlers changes. -/
structure Hidden (view : Process → τ) : Prop extends Action.Hidden view where
  disposition
    : ∀ (process : Process) (signal : FatalSignal) (new : Disposition),
        view (process.setDisposition signal new) = view process
  table
    : ∀ (process : Process) (table : HandlerTable),
        view { process with table := table } = view process

namespace Hidden

variable (hidden : Hidden view)
include hidden

/-- Setting a disposition is one step, or a refusal that changes nothing. -/
theorem setDisposition (refusal : FatalSignal → Option Errno) (signal : FatalSignal)
    (new : Disposition)
    : (Handlers.setDisposition refusal signal new).NeverTouches view := by
  unfold Handlers.setDisposition
  split
  · exact .pure _
  · exact .exchange fun process => hidden.disposition process signal new

/-- One slot after the other is emptied, by induction on those that are left. -/
theorem restoreSlots (host : Host) (indices : List (Fin savedCapacity))
    : (Handlers.restoreSlots host indices).NeverTouches view := by
  induction indices with
  | nil => exact .pure _
  | cons index rest ih =>
      refine .bind (.exchange fun process => hidden.table process _) fun slot => ?_
      cases slot with
      | none => exact ih
      | some kept =>
          refine .bind (hidden.setDisposition _ _ _) fun result => ?_
          cases result with
          | ok _ => exact ih
          | error errno => exact .bind (hidden.log _ _ _) fun _ => ih

/-- The counter is taken first, and the slots that it counted are emptied. -/
theorem restore (host : Host) : (Handlers.restore host).NeverTouches view :=
  .bind (.exchange fun process => hidden.table process _) fun _ => hidden.restoreSlots host _

/-- One signal after the other gets the handler, by induction on those that are left; when one
is refused, the earlier ones are restored.
-/
theorem installEach (host : Host) (places : List (FatalSignal × Fin savedCapacity))
    : (Handlers.installEach host places).NeverTouches view := by
  induction places with
  | nil => exact .pure _
  | cons place rest ih =>
      refine .bind (hidden.setDisposition _ _ _) fun result => ?_
      cases result with
      | ok previous =>
          exact .bind (.modify fun process => hidden.table process _) fun _ =>
            .bind (.modify fun process => hidden.table process _) fun _ => ih
      | error errno =>
          exact .bind (hidden.log _ _ _) fun _ => .bind (hidden.restore host) fun _ => .pure _

/-- Installing goes over all signals and their slots. -/
theorem install (host : Host) : (Handlers.install host).NeverTouches view :=
  hidden.installEach host _

end Hidden

end Handlers

-----------------------------------------------------------------------------------------
-- The hook of panics
-----------------------------------------------------------------------------------------

namespace PanicHook

/-- A view shows nothing of what replacing the hook changes. -/
structure Hidden (view : Process → τ) : Prop extends Action.Hidden view where
  hooks
    : ∀ (process : Process) (hook : PanicHook) (previousHook : Option PanicHook)
        (hookInstalled : Bool),
        view { process with
          hook := hook
          previousHook := previousHook
          hookInstalled := hookInstalled } = view process

namespace Hidden

variable (hidden : Hidden view)
include hidden

/-- Nothing happens where the hook is in place or cannot be replaced. -/
theorem install (host : Host) : (PanicHook.install host).NeverTouches view := by
  refine .bind (.ask _) fun installed => ?_
  split
  · exact .pure _
  · refine .bind (.ask _) fun free => ?_
    split
    · exact .pure _
    · refine .bind (.exchange fun process => hidden.hooks process _ _ _) fun previous => ?_
      refine .bind (.modify fun process => hidden.hooks process _ _ _) fun _ => ?_
      refine .bind (.modify fun process => hidden.hooks process _ _ _) fun _ => ?_
      refine .bind (.modify fun process => hidden.hooks process _ _ _) fun _ => ?_
      exact .bind (hidden.diagnose _ _ _) fun _ => .pure _

/-- The earlier hook is put back when one is kept, and both ways end with the same two steps. -/
theorem remove (host : Host) : (PanicHook.remove host).NeverTouches view := by
  refine .bind (.ask _) fun installed => ?_
  split
  · exact .pure _
  · refine .bind (.ask _) fun free => ?_
    split
    · exact .pure _
    · refine .bind (.exchange fun process => hidden.hooks process _ _ _) fun _ => ?_
      refine .bind (.exchange fun process => hidden.hooks process _ _ _) fun previous => ?_
      have closing
          : Steps.NeverTouches view (do
              markInstalled false
              Action.diagnose .debug .panicMonitor "Restored previous panic hook") :=
        .bind (.modify fun process => hidden.hooks process _ _ _) fun _ =>
          hidden.diagnose _ _ _
      cases previous with
      | none => exact closing
      | some hook =>
          exact .bind (.modify fun process => hidden.hooks process _ _ _) fun _ => closing

end Hidden

end PanicHook

-----------------------------------------------------------------------------------------
-- Switching monitors
-----------------------------------------------------------------------------------------

namespace Activation

/-- A view shows nothing of what is installed for signals: the stack and the handlers. -/
structure Hidden (view : Process → τ) : Prop
    extends stack : AltStack.Hidden view, handlers : Handlers.Hidden view

/-- A view shows nothing of a monitor's flag. -/
def FlagHidden (monitor : Monitor) (view : Process → τ) : Prop :=
  ∀ (process : Process) (on : Bool),
    view { process with enabled := process.enabled.put on monitor } = view process

/-- Swapping a hidden flag is a hidden step. -/
theorem FlagHidden.swap {monitor : Monitor} (flag : FlagHidden monitor view) (on : Bool)
    : (Activation.swap monitor on).NeverTouches view := .exchange fun process => flag process on

namespace Hidden

variable (hidden : Hidden view)
include hidden

/-- The stack comes first, and it is given back when the handlers are refused. -/
theorem installHandlers (host : Host) : (Activation.installHandlers host).NeverTouches view := by
  refine .bind (hidden.stack.install host) fun provided => ?_
  cases provided with
  | error failure => exact .pure _
  | ok _ =>
      refine .bind (hidden.handlers.install host) fun installed => ?_
      cases installed with
      | ok _ => exact .pure _
      | error failure => exact .bind (hidden.stack.release host) fun _ => .pure _

/-- The handlers are restored before the stack that they run on is released. -/
theorem uninstallSignals (host : Host)
    : (Activation.uninstallSignals host).NeverTouches view :=
  .bind (hidden.handlers.restore host) fun _ => hidden.stack.release host

/-- An identifier is taken and kept before the handlers are installed. -/
theorem installSignals (ids : Host.Hidden view) (host : Host)
    : (Activation.installSignals host).NeverTouches view := by
  refine .bind (ids.issue host) fun id => ?_
  refine .bind (ids.storeId id) fun _ => ?_
  refine .bind (hidden.installHandlers host) fun installed => ?_
  cases installed with
  | error failure => exact .pure _
  | ok _ => exact .bind (hidden.diagnose _ _ _) fun _ => .pure _

/-- The flag is set first, and taken back when installing fails. -/
theorem setSignals (ids : Host.Hidden view) (flag : FlagHidden .signal view) (host : Host)
    (on : Bool)
    : (Activation.setSignals host on).NeverTouches view := by
  refine .bind (flag.swap on) fun was => ?_
  split
  · exact .pure _
  · split
    · exact .bind (hidden.uninstallSignals host) fun _ => .pure _
    · refine .bind (hidden.installSignals ids host) fun installed => ?_
      cases installed with
      | ok _ => exact .pure _
      | error failure => exact .bind (flag.swap false) fun _ => .pure _

end Hidden

end Activation

/-- The flag is cleared before the hook is removed, and set after it is installed. -/
theorem PanicHook.Hidden.setPanics (hidden : PanicHook.Hidden view)
    (flag : Activation.FlagHidden .panic view) (host : Host) (on : Bool)
    : (Activation.setPanics host on).NeverTouches view := by
  refine .bind (.ask _) fun was => ?_
  split
  · exact .pure _
  · split
    · exact .bind (flag.swap false) fun _ => .bind (hidden.remove host) fun _ => .pure _
    · refine .bind (hidden.install host) fun installed => ?_
      cases installed with
      | error failure => exact .pure _
      | ok _ => exact .bind (flag.swap true) fun _ => .pure _

end CrashCapture
