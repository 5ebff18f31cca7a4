import CrashCapture.Proofs.Monitor.Fittings

/-! Invariants that the monitors' work keeps. What an invariant has to allow is said once: the
marks of a failure being handled, monitors that are switched off, and what the program's own
code does. From that it is kept by everything that capture does with a failure, from the
delivery of a signal to the end of a report.
-/

namespace CrashCapture

open Steps

variable {host : Host} {always inv : Process → Prop}

-----------------------------------------------------------------------------------------
-- Events on their way
-----------------------------------------------------------------------------------------

/-- Quiet steps keep an invariant. -/
structure Kept (always inv : Process → Prop) : Prop where
  implied : ∀ process, inv process → always process
  quiet : ∀ {α : Type} {action : Action α}, action.Quiet → action.Maintains always inv

/-- All that an event meets on its way keeps the invariant: the marks of a failure being handled
and monitors that are turned off.
-/
structure Carried (host : Host) (always inv : Process → Prop) : Prop
    extends Kept always inv where
  handling : ∀ process, inv process → inv { process with handling := true }
  crashed : ∀ process, inv process → inv { process with crashedDuring := true }
  off : ∀ monitor, (Activation.setEnabled host false monitor).Maintains always inv

/-- A look at the process keeps what is kept. -/
theorem Kept.ask (kept : Kept always inv) {α : Type} (look : Process → α)
    : (Steps.ask look).Maintains always inv := .ask kept.implied look

/-- Requested monitors are switched on and others off in turn, by induction on the monitors
left.
-/
theorem Kept.setEach (kept : Kept always inv) {requested : Selection}
    (set
      : ∀ monitor,
          (Activation.setEnabled host (requested.contains monitor) monitor).Maintains always
            inv)
    (monitors : List Monitor)
    : (Activation.setEach host requested monitors).Maintains always inv := by
  induction monitors with
  | nil => exact .pure _
  | cons monitor rest ih =>
      refine .bind (set monitor) fun result => ?_
      cases result with
      | ok _ => exact ih
      | error failure =>
          exact .bind (kept.quiet (Action.hidden_quiet.diagnose _ _ _).leaves) fun _ => ih

/-- Switching to a selection keeps what switching each monitor keeps; the rest of it is quiet.
-/
theorem Kept.setActive (kept : Kept always inv) {requested : Selection}
    (set
      : ∀ monitor,
          (Activation.setEnabled host (requested.contains monitor) monitor).Maintains always
            inv)
    : (Activation.setActive host requested).Maintains always inv :=
  .bind (kept.setEach set _) fun _ =>
    .bind (kept.ask _) fun _ =>
      .bind (kept.quiet (Action.hidden_quiet.diagnose _ _ _).leaves) fun _ => .pure _

/-- An event is completed with looks at the monitors that are on, by induction on those left.
-/
theorem Kept.annotateEach (kept : Kept always inv) (event : Event) (monitors : List Monitor)
    : (Pipeline.annotateEach event monitors).Maintains always inv := by
  induction monitors generalizing event with
  | nil => exact .pure _
  | cons monitor rest ih => exact .bind (kept.ask _) fun isOn => ih _

/-- Delivering is up to the callback, and a missing callback is only logged. -/
theorem Kept.deliver (kept : Kept always inv)
    (onEvent : ∀ event, (host.onEvent event).Maintains always inv) (event : Event)
    : (Pipeline.deliver host event).Maintains always inv := by
  refine .bind (kept.ask _) fun registered => ?_
  split
  · exact onEvent event
  · exact .bind (kept.quiet (Action.hidden_quiet.log _ _ _).leaves) fun _ => .pure _

namespace Carried

variable (carried : Carried host always inv)
include carried

/-- Every monitor is switched off in turn, by induction on the monitors left. -/
theorem disableEach (monitors : List Monitor)
    : (Activation.disableEach host monitors).Maintains always inv := by
  induction monitors with
  | nil => exact .pure _
  | cons monitor rest ih =>
      refine .bind (carried.off monitor) fun result => ?_
      cases result with
      | ok _ => exact ih
      | error failure =>
          exact .bind (carried.quiet (Action.hidden_quiet.log _ _ _).leaves) fun _ => ih

/-- Turning all monitors off keeps what turning each one off keeps. -/
theorem disableAll : (Activation.disableAll host).Maintains always inv :=
  carried.disableEach _

/-- The note of a failure marks it, and marks a second one before turning the monitors off. -/
theorem notifyFatal (inSignalHandler : Bool)
    : (Pipeline.notifyFatal host inSignalHandler).Maintains always inv := by
  unfold Pipeline.notifyFatal
  dsimp only
  split
  case' isTrue => refine .bind (carried.quiet (.modify fun _ => rfl)) fun _ => ?_
  all_goals
    refine .bind (.exchange carried.implied carried.handling) fun again => ?_
    split
    · exact .pure _
    · exact .bind (.modify carried.implied carried.crashed) fun _ =>
        .bind (carried.quiet (Action.hidden_quiet.log _ _ _).leaves) fun _ =>
          .bind carried.disableAll fun _ => .pure _

/-- An event is completed and delivered, and a fatal one switches the monitors off. -/
theorem handle (onEvent : ∀ event, (host.onEvent event).Maintains always inv) (event : Event)
    : (Pipeline.handle host event).Maintains always inv := by
  refine .bind (carried.ask _) fun crashedDuring => ?_
  refine .bind (carried.annotateEach _ _) fun annotated => ?_
  refine .bind (carried.deliver onEvent annotated) fun delivered => ?_
  dsimp only
  split
  · exact .bind carried.disableAll fun _ => .pure _
  · exact .pure _

end Carried

/-! A capture is led from one invariant to another by what handling its event leads to. -/

section Captures

variable {before : Process → Prop} (early : Carried host always before)
  (late : Kept always inv)
  (handled : ∀ event, (Pipeline.handle host event).Leads always before inv)
include early late handled

/-- A trapped signal is noted and described before its event is handled. -/
theorem Trap.capture_leads (signal : FatalSignal) (cause : SignalCause)
    : (capture host signal cause).Leads always before inv := by
  refine .bind (early.quiet Suspension.hidden_quiet.begin.leaves) fun suspension => ?_
  refine .bind (early.notifyFatal true) fun crashedDuring => ?_
  refine .bind (early.quiet (Action.hidden_quiet.hear _).leaves) fun context => ?_
  refine .bind (early.ask _) fun maxDepth => ?_
  refine .bind (early.quiet (Trap.loadId_leaves _)) fun id => ?_
  exact .bind (handled _) fun _ => late.quiet (Action.hidden_quiet.resume suspension).leaves

/-- A panic is noted only where it is fatal, and described before its event is handled. -/
theorem Panic.capture_leads (cause : Cause)
    : (capture host cause).Leads always before inv := by
  refine .bind (early.quiet (Host.hidden_quiet.issue host).leaves) fun id => ?_
  refine .bind (early.ask _) fun isFatal => ?_
  dsimp only
  split
  case' isTrue => refine .bind (early.notifyFatal false) fun crashedDuring => ?_
  case' isFalse => refine .bind (Maintains.pure _) fun crashedDuring => ?_
  all_goals
    refine .bind (early.quiet Suspension.hidden_quiet.begin.leaves) fun suspension => ?_
    refine .bind (early.quiet (Action.hidden_quiet.hear _).leaves) fun context => ?_
    exact .bind (handled _) fun _ => late.quiet (Action.hidden_quiet.resume suspension).leaves

/-- A report of the program holds threads still and is noted only where it asks for that. -/
theorem UserReport.capture_leads (report : UserReport) (id : EventId)
    : (report.capture host id).Leads always before inv := by
  unfold UserReport.capture
  dsimp only
  split
  case' isTrue =>
    refine .bind (early.quiet (.bind Suspension.hidden_quiet.begin.leaves fun _ => .pure _))
      fun _ => ?_
  case' isFalse => refine .bind (Maintains.pure _) fun suspension => ?_
  all_goals
    split
    case' isTrue => refine .bind (early.notifyFatal false) fun crashedDuring => ?_
    case' isFalse => refine .bind (Maintains.pure _) fun crashedDuring => ?_
    all_goals
      refine .bind (early.quiet (Action.hidden_quiet.hear _).leaves) fun context => ?_
      refine .bind (handled _) fun _ => ?_
      split
      · exact late.quiet (Action.hidden_quiet.resume _).leaves
      · exact Maintains.pure _

end Captures

-----------------------------------------------------------------------------------------
-- Invariants about what decides
-----------------------------------------------------------------------------------------

/-- An invariant that nothing decides but what the monitors go by, and their hook. -/
structure Steady (always inv : Process → Prop) : Prop where
  implied : ∀ process, inv process → always process
  settled
    : ∀ {α : Type} {action : Action α},
        (action.Leaves fun process => (process.core, process.hooks))
          → action.Maintains always inv

/-- A look at the process keeps a steady invariant. -/
theorem Steady.ask (steady : Steady always inv) {α : Type} (look : Process → α)
    : (Steps.ask look).Maintains always inv := .ask steady.implied look

/-- What belongs to a thread alone is not what a steady invariant is about. -/
theorem Steady.thread (steady : Steady always inv) (host : Host)
    (change : ThreadState → ThreadState)
    : (host.modifyThread change).Maintains always inv := steady.settled (.modify fun _ => rfl)

/-- The end of a process keeps every steady invariant. -/
theorem Steady.finish (steady : Steady always inv) {α : Type} (ending : Ending)
    : (Action.finish ending : Action α).Maintains always inv :=
  steady.settled fun _ => ⟨rfl, trivial⟩

/-- Quiet steps are among those that a steady invariant stands. -/
theorem Steady.kept (steady : Steady always inv) : Kept always inv :=
  ⟨steady.implied, fun quiet => steady.settled (quiet.comp fun view => (view.1, view.2.hooks))⟩

/-- An invariant that holds at rest: nothing aside from the monitors' work decides it, marking
a failure keeps it, and so does clearing the flag of a monitor without handlers.
-/
structure Upheld (always inv : Process → Prop) : Prop where
  implied : ∀ process, inv process → always process
  decided : ∀ {before after : Process}, after.core = before.core → inv before → inv after
  handling : ∀ process, inv process → inv { process with handling := true }
  crashed : ∀ process, inv process → inv { process with crashedDuring := true }
  cleared
    : ∀ monitor ≠ .signal, ∀ process,
        inv process → inv { process with enabled := process.enabled.put false monitor }

namespace Upheld

variable (upheld : Upheld always inv)
include upheld

/-- What decides nothing keeps an invariant at rest. -/
theorem aside {α : Type} {action : Action α} (leaves : action.Aside)
    : action.Maintains always inv := .of_leaves upheld.implied upheld.decided leaves

/-- A look at the process keeps an invariant at rest. -/
theorem ask {α : Type} (look : Process → α) : (Steps.ask look).Maintains always inv :=
  .ask upheld.implied look

/-- Switching a monitor is up to what installs or removes handlers, and to the flags of the
other two.
-/
theorem setEnabled {on : Bool}
    (signals : (Activation.setSignals host on).Maintains always inv)
    (switched
      : ∀ monitor ≠ .signal, ∀ process,
          inv process → inv { process with enabled := process.enabled.put on monitor })
    (monitor : Monitor)
    : (Activation.setEnabled host on monitor).Maintains always inv := by
  have swap (monitor : Monitor) (other : monitor ≠ .signal)
      : (Activation.swap monitor on).Maintains always inv :=
    .exchange upheld.implied (switched monitor other)
  cases monitor with
  | signal => exact signals
  | user => exact .bind (swap .user (by decide)) fun _ => .pure _
  | panic =>
      refine .bind (upheld.ask _) fun isOn => ?_
      split
      · exact .pure _
      · cases on with
        | false =>
            exact .bind (swap .panic (by decide)) fun _ =>
              .bind (upheld.aside (PanicHook.hidden_core.remove host).leaves) fun _ => .pure _
        | true =>
            refine .bind (upheld.aside (PanicHook.hidden_core.install host).leaves)
              fun installed => ?_
            cases installed with
            | error failure => exact .pure _
            | ok _ => exact .bind (swap .panic (by decide)) fun _ => .pure _

/-- An invariant at rest is steady, since hooks decide nothing of it. -/
theorem steady : Steady always inv :=
  ⟨upheld.implied, fun leaves => upheld.aside (leaves.comp Prod.fst)⟩

/-- An invariant at rest is kept by quiet steps. -/
theorem kept : Kept always inv := upheld.steady.kept

/-- Where removing handlers keeps it, all that an event meets on its way does. -/
theorem carried (off : (Activation.setSignals host false).Maintains always inv)
    : Carried host always inv where
  toKept := upheld.kept
  handling := upheld.handling
  crashed := upheld.crashed
  off := upheld.setEnabled off upheld.cleared

end Upheld

-----------------------------------------------------------------------------------------
-- Failures from their start to their end
-----------------------------------------------------------------------------------------

/-- What an invariant asks of a host: removing handlers keeps it, and so do captures by the
monitors that are on and the program's own handler and hook.
-/
structure Host.Upholds (host : Host) (always inv : Process → Prop) : Prop where
  off : (Activation.setSignals host false).Maintains always inv
  declined : (Trap.decline host).Maintains always inv
  trapped
    : ∀ signal cause process,
        inv process → process.enabled.signal = true →
          (Trap.capture host signal cause).Ensures always (fun _ => inv) process
  panicked
    : ∀ cause process,
        inv process → process.enabled.panic = true →
          (Panic.capture host cause).Ensures always (fun _ => inv) process
  reported
    : ∀ (report : UserReport) id process,
        inv process → process.enabled.user = true →
          (report.capture host id).Ensures always (fun _ => inv) process
  onSignal : ∀ number signal, (host.onSignal number signal).Maintains always inv
  onPanic : ∀ text, (host.onPanic text).Maintains always inv

/-- A callback that keeps the invariant makes every capture keep it. -/
theorem Host.Upholds.of_onEvent (carried : Carried host always inv)
    (declined : (Trap.decline host).Maintains always inv)
    (onEvent : ∀ event, (host.onEvent event).Maintains always inv)
    (onSignal : ∀ number signal, (host.onSignal number signal).Maintains always inv)
    (onPanic : ∀ text, (host.onPanic text).Maintains always inv)
    : host.Upholds always inv where
  off := carried.off .signal
  declined := declined
  trapped signal cause process holds _ :=
    Trap.capture_leads carried carried.toKept (carried.handle onEvent) signal cause process holds
  panicked cause process holds _ :=
    Panic.capture_leads carried carried.toKept (carried.handle onEvent) cause process holds
  reported report id process holds _ :=
    report.capture_leads carried carried.toKept (carried.handle onEvent) id process holds
  onSignal := onSignal
  onPanic := onPanic

/-- Where the guard handler gets a signal for a fault at that address, it ends the process, or
leaving the signal to its default keeps the invariant.
-/
def Trap.Spared (host : Host) (always inv : Process → Prop) (signal : FatalSignal)
    (address : Address)
    : Prop :=
  ∀ process,
    inv process → process.dispositions signal = .guard →
      host.isGuarded address = true ∨ (standDown host signal).Maintains always inv

namespace Steady

variable (steady : Steady always inv) (upholds : host.Upholds always inv)
include steady upholds

/-- The handler captures a signal that is wanted and declines another one, and raises it again
in the end.
-/
theorem handler (signal : FatalSignal) (cause : SignalCause)
    : (Trap.handler host signal cause).Maintains always inv := by
  refine .bind (steady.kept.quiet (Action.hidden_quiet.log _ _ _).leaves) fun _ => ?_
  refine .ask_bind steady.implied fun process holds => ?_
  rw [ensures_bind, ensures_ask]
  refine ⟨steady.implied _ holds, ?_⟩
  have last (text : String)
      : (do
          Action.log .debug .signalMonitor text
          Trap.raiseBlocked host signal).Maintains always inv :=
    .bind (steady.kept.quiet (Action.hidden_quiet.log _ _ _).leaves) fun _ =>
      steady.thread host _
  split
  next wanted =>
    have isOn : process.enabled.signal = true := by
      rw [Bool.and_eq_true] at wanted
      exact wanted.1
    exact Maintains.ensures_bind (upholds.trapped signal cause process holds isOn)
      fun _ => last _
  next => exact Maintains.ensures_bind (upholds.declined process holds) fun _ => last _

omit upholds in
/-- On the way into a handler and out of it only the thread is changed. -/
theorem inHandler {body : Action Unit} (kept : body.Maintains always inv)
    (signal : FatalSignal) (asksAltStack : Bool)
    : (Trap.inHandler host signal asksAltStack body).Maintains always inv :=
  .bind (steady.ask _) fun _ =>
    .bind (steady.thread host _) fun _ =>
      .bind kept fun _ => steady.thread host _

/-- A signal is delivered, and again as long as it comes back, by induction on the rounds
left. In each one the disposition of that moment decides.
-/
theorem deliverWithin (aborts : Trap.Spared host always inv .abort .null) (rounds : Nat)
    {signal : FatalSignal} {cause : SignalCause}
    (first : Trap.Spared host always inv signal cause.address)
    (later : Trap.Spared host always inv signal .null)
    : (Trap.deliverWithin host rounds signal cause).Maintains always inv := by
  induction rounds generalizing signal cause with
  | zero => exact steady.finish _
  | succ rounds ih =>
      have again
          : (do
              if ← Trap.takePending host signal then
                Trap.deliverWithin host rounds signal .sentByItself).Maintains always inv := by
        refine .bind (steady.settled (.exchange fun _ => rfl)) fun isPending => ?_
        split
        · exact ih later later
        · exact .pure _
      refine .ask_bind steady.implied fun process holds => ?_
      cases found : process.dispositions signal with
      | standard =>
          exact (steady.finish _).bind (fun _ => again) process holds
      | ignored => exact holds
      | own number =>
          exact (steady.inHandler (upholds.onSignal number signal) signal false).bind
            (fun _ => again) process holds
      | capture =>
          exact (steady.inHandler (steady.handler upholds signal cause) signal true).bind
            (fun _ => again) process holds
      | guard =>
          refine (steady.inHandler ?_ signal true).bind (fun _ => again) process holds
          split
          · exact .bind
              (steady.settled ((Action.hidden_core.say _ _).leaves.prod (.modify fun _ => rfl)))
              fun _ => .bind (ih aborts aborts) fun _ => steady.finish _
          · next outside => exact (first process holds found).resolve_left outside

/-- A signal waits at a thread that blocks it, and is delivered else. -/
theorem send (aborts : Trap.Spared host always inv .abort .null) {signal : FatalSignal}
    {cause : SignalCause} (first : Trap.Spared host always inv signal cause.address)
    (later : Trap.Spared host always inv signal .null)
    : (Trap.send host signal cause).Maintains always inv := by
  refine .bind (steady.ask _) fun isBlocked => ?_
  split
  · exact steady.thread host _
  · exact steady.deliverWithin upholds aborts _ first later

/-- Aborting unblocks the signal, raises it, and ends the process when that did not. -/
theorem abort {α : Type} (aborts : Trap.Spared host always inv .abort .null)
    : (Trap.abort host : Action α).Maintains always inv :=
  .bind (steady.thread host _) fun _ =>
    .bind (steady.send upholds aborts aborts aborts) fun _ =>
      steady.finish _

/-- The hook captures a panic while the monitor is on, and hands it on to an earlier hook. -/
theorem hook (cause : Panic.Cause) : (Panic.hook host cause).Maintains always inv := by
  refine .ask_bind steady.implied fun process holds => ?_
  dsimp only
  split
  next isOn =>
    refine Maintains.ensures_bind (upholds.panicked cause process holds isOn) fun _ =>
      .bind (steady.ask _) fun previous => ?_
    cases previous with
    | none => exact .pure _
    | some hook => exact upholds.onPanic cause.text
  next =>
    refine Maintains.bind (steady.ask _) (fun previous => ?_) process holds
    cases previous with
    | none => exact .pure _
    | some hook => exact upholds.onPanic cause.text

/-- A panic inside of the hook aborts; any other one goes to the hook that is in place. -/
theorem panic (aborts : Trap.Spared host always inv .abort .null) (cause : Panic.Cause)
    : (Panic.run host cause).Maintains always inv := by
  refine .bind (steady.ask _) fun isInside => ?_
  dsimp only
  split
  case' isTrue => refine .bind (steady.abort upholds aborts) fun _ => ?_
  all_goals
    refine .bind (steady.thread host _) fun _ => ?_
    refine .bind (steady.ask _) fun hook => ?_
    split
    · exact .bind (steady.hook upholds cause) fun _ =>
        steady.thread host _
    · exact .bind (upholds.onPanic cause.text) fun _ =>
        steady.thread host _

/-- A report is captured while its monitor is on, and ends the process when it asks for that.
-/
theorem report (aborts : Trap.Spared host always inv .abort .null) (report : UserReport)
    : (report.submit host).Maintains always inv := by
  have last : (if report.terminate then Trap.abort host else pure ()).Maintains always inv := by
    split
    · exact steady.abort upholds aborts
    · exact .pure _
  refine .ask_bind steady.implied fun process holds => ?_
  split
  next isOn =>
    -- The monitor is still on when its capture begins.
    have still {α : Type} {action : Action α} (quiet : action.Quiet) {found : Process}
        (held : inv found) (on : found.enabled.user = true)
        : action.Ensures always (fun _ after => inv after ∧ after.enabled.user = true)
            found := by
      refine ((steady.kept.quiet quiet found held).and (quiet found)).mono
        (fun _ both => both.1) fun _ after both => ⟨both.1, ?_⟩
      have same : after.core = found.core := congrArg Prod.fst both.2
      exact (congrArg (·.1.enabled.user) same).trans on
    rw [ensures_bind]
    refine (still (Host.hidden_quiet.issue host).leaves holds isOn).mono (fun _ fine => fine)
      fun id found ⟨held, on⟩ => ?_
    rw [ensures_bind]
    refine (still (Action.hidden_quiet.diagnose _ _ _).leaves held on).mono (fun _ fine => fine)
      fun _ start ⟨held, on⟩ => ?_
    exact Maintains.ensures_bind (upholds.reported report id start held on) fun _ => last
  next => exact steady.kept.quiet (Action.hidden_quiet.diagnose _ _ _).leaves process holds

end Steady

end CrashCapture
