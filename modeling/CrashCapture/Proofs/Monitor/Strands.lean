import CrashCapture.Proofs.Monitor.Deliveries
import CrashCapture.Proofs.Process.Shares

/-! Programs under watch on several threads, step by step. A strand is what one thread does:
calls, with the callback that answers them, and its own business in between. Signals that are
trapped at any moment, on whatever thread, are strands as well. What the parts of a capture
keep with shares of an account, every strand keeps.
-/

namespace CrashCapture

open Steps

variable {ρ : Type} [AddCommMonoid ρ] {inv : ρ → Process → Prop} {host : Host}

-----------------------------------------------------------------------------------------
-- Accounts of what is on record
-----------------------------------------------------------------------------------------

/-- The invariant accounts for what is on record, and for nothing else. -/
def Accounts (inv : ρ → Process → Prop) : Prop :=
  ∀ share before after, after.ledger = before.ledger → inv share before → inv share after

/-- What an account asks of a host: the parts of a capture that put something on record keep it,
and the program's own handler and hook do.
-/
structure Host.Keeps (host : Host) (inv : ρ → Process → Prop) : Prop where
  installed : (Activation.installSignals host).Safe inv
  notified : ∀ inSignalHandler, (Pipeline.notifyFatal host inSignalHandler).Safe inv
  trapped : ∀ signal cause, (Trap.capture host signal cause).Safe inv
  panicked : ∀ cause, (Panic.capture host cause).Safe inv
  reported
    : ∀ report : UserReport,
        host.issue.Owns inv
          (fun id left => (report.capture host id).Owns inv (fun _ _ => True) left) 0
  onSignal : ∀ number signal, (host.onSignal number signal).Safe inv
  onPanic : ∀ text, (host.onPanic text).Safe inv

namespace Accounts

variable (accounts : Accounts inv)
include accounts

/-- What never touches the record keeps every account of it, with no share in it. -/
theorem untouched {α : Type} {action : Action α} (never : action.NeverTouches Process.ledger)
    : action.Safe inv :=
  .of_owns (never.owns accounts 0)

/-- Steps that decide nothing and record nothing keep the account. -/
theorem apart {α : Type} {action : Action α} (apart : action.Apart) : action.Safe inv :=
  accounts.untouched (apart.comp Prod.snd)

/-- What is owned stays as it is along steps apart. -/
theorem apart_owns {α : Type} {action : Action α} (apart : action.Apart) (share : ρ)
    : action.Owns inv (fun _ left => left = share) share :=
  (apart.comp Prod.snd).owns accounts share

/-- A look at the process keeps the account. -/
theorem ask {α : Type} (look : Process → α) : (Steps.ask look : Action α).Safe inv :=
  accounts.untouched (.ask look)

-----------------------------------------------------------------------------------------
-- Switching monitors
-----------------------------------------------------------------------------------------

/-- The flag of a monitor is not on record. -/
theorem swap (monitor : Monitor) (on : Bool) : (Activation.swap monitor on).Safe inv :=
  accounts.untouched (.exchange fun _ => rfl)

/-- Turning the signal monitor on is up to what installing puts on record; the rest is flags,
handlers and the stack.
-/
theorem setSignals (on : Bool) (installed : on = true → (Activation.installSignals host).Safe inv)
    : (Activation.setSignals host on).Safe inv := by
  refine .bind (accounts.swap _ _) fun was => ?_
  split
  · exact .pure _
  · cases on with
    | false =>
        exact .bind (accounts.untouched (Activation.hidden_ledger.uninstallSignals host))
          fun _ => .pure _
    | true =>
        refine .bind (installed rfl) fun result => ?_
        cases result with
        | ok _ => exact .pure _
        | error failure => exact .bind (accounts.swap _ _) fun _ => .pure _

/-- Neither the hook nor the flag of the panic monitor is on record. -/
theorem setPanics (on : Bool) : (Activation.setPanics host on).Safe inv :=
  accounts.untouched (PanicHook.hidden_ledger.setPanics (fun _ _ => rfl) host on)

/-- Switching a monitor is up to what installing for signals puts on record. -/
theorem setEnabled (on : Bool) (installed : on = true → (Activation.installSignals host).Safe inv)
    (monitor : Monitor)
    : (Activation.setEnabled host on monitor).Safe inv := by
  cases monitor with
  | signal => exact accounts.setSignals on installed
  | panic => exact accounts.setPanics on
  | user => exact .bind (accounts.swap _ _) fun _ => .pure _

/-- Monitors are switched in turn, by induction on those left. -/
theorem setEach (requested : Selection) (installed : (Activation.installSignals host).Safe inv)
    (monitors : List Monitor)
    : (Activation.setEach host requested monitors).Safe inv := by
  induction monitors with
  | nil => exact .pure _
  | cons monitor rest ih =>
      refine .bind (accounts.setEnabled _ (fun _ => installed) monitor) fun result => ?_
      cases result with
      | ok _ => exact ih
      | error failure =>
          exact .bind (accounts.apart (Action.hidden_apart.diagnose _ _ _)) fun _ => ih

/-- Monitors are turned off in turn, by induction on those left, and nothing is installed. -/
theorem disableEach (monitors : List Monitor)
    : (Activation.disableEach host monitors).Safe inv := by
  induction monitors with
  | nil => exact .pure _
  | cons monitor rest ih =>
      refine .bind (accounts.setEnabled false (fun on => nomatch on) monitor) fun result => ?_
      cases result with
      | ok _ => exact ih
      | error failure => exact .bind (accounts.apart (Action.hidden_apart.log _ _ _)) fun _ => ih

/-- Turning all monitors off keeps the account. -/
theorem disableAll : (Activation.disableAll host).Safe inv := accounts.disableEach _

/-- The mark is taken in one step; what whoever finds it free owns then, it has in the end. -/
theorem notifyFatal (first : ρ → Prop)
    (marked
      : (Steps.exchange (·.handling) fun process : Process =>
          { process with handling := true }).Owns inv
          (fun again left => again = false → first left) 0)
    (inSignalHandler : Bool)
    : (Pipeline.notifyFatal host inSignalHandler).Owns inv
        (fun again left => again = false → first left) 0 := by
  have crashed
      : (Steps.modify fun process : Process => { process with crashedDuring := true }).Safe inv :=
    accounts.untouched (.modify fun _ => rfl)
  unfold Pipeline.notifyFatal
  dsimp only
  split
  case' isTrue =>
    refine owns_bind.mpr (owns_modify fun others process account => ⟨0, ?_, ?_⟩)
    · exact accounts _ process _ rfl account
  all_goals
    refine owns_bind.mpr (marked.mono fun again left found => ?_)
    cases again with
    | false => exact found
    | true =>
        rw [if_neg (by decide)]
        refine Safe.bind_owns crashed ?_ left
        refine fun _ => Safe.bind_owns (accounts.apart (Action.hidden_apart.log _ _ _)) ?_
        refine fun _ => Safe.bind_owns accounts.disableAll ?_
        exact fun _ _ again => nomatch again

/-- To decline a signal is to turn its monitor off and to note it. -/
theorem decline : (Trap.decline host).Safe inv :=
  .bind (accounts.swap _ _) fun _ =>
    .bind (accounts.untouched (Activation.hidden_ledger.uninstallSignals host)) fun _ =>
      accounts.untouched (.modify fun _ => rfl)

-----------------------------------------------------------------------------------------
-- Failures from their start to their end
-----------------------------------------------------------------------------------------

section Failures

variable (keeps : host.Keeps inv)
include keeps

/-- The handler captures a signal or declines it, and raises it again in the end. -/
theorem handler (signal : FatalSignal) (cause : SignalCause)
    : (Trap.handler host signal cause).Safe inv := by
  refine .bind (accounts.apart (Action.hidden_apart.log _ _ _)) fun _ => ?_
  refine .bind (accounts.ask _) fun isOn => .bind (accounts.ask _) fun sigterm => ?_
  have last (text : String)
      : (do
          Action.log .debug .signalMonitor text
          Trap.raiseBlocked host signal).Safe inv :=
    .bind (accounts.apart (Action.hidden_apart.log _ _ _)) fun _ =>
      accounts.apart (Trap.apart_raiseBlocked host signal)
  split
  · exact .bind (keeps.trapped signal cause) fun _ => last _
  · exact .bind accounts.decline fun _ => last _

omit keeps in
/-- On the way into a handler and out of it only the thread is changed. -/
theorem inHandler {body : Action Unit} (safe : body.Safe inv) (signal : FatalSignal)
    (asksAltStack : Bool)
    : (Trap.inHandler host signal asksAltStack body).Safe inv :=
  .bind (accounts.apart (host.apart_askThread _)) fun _ =>
    .bind (accounts.apart (host.apart_modifyThread _)) fun _ =>
      .bind safe fun _ => accounts.apart (host.apart_modifyThread _)

/-- A signal is delivered, and again as long as it comes back, by induction on the rounds left.
-/
theorem deliverWithin (rounds : Nat) (signal : FatalSignal) (cause : SignalCause)
    : (Trap.deliverWithin host rounds signal cause).Safe inv := by
  induction rounds generalizing signal cause with
  | zero => exact accounts.apart (Action.apart_finish _)
  | succ rounds ih =>
      have again
          : (do
              if ← Trap.takePending host signal then
                Trap.deliverWithin host rounds signal .sentByItself).Safe inv := by
        refine .bind (accounts.apart (Trap.apart_takePending host signal)) fun isPending => ?_
        split
        · exact ih signal _
        · exact .pure _
      refine .bind (accounts.ask _) fun disposition => ?_
      cases disposition with
      | standard => exact .bind (accounts.apart (Action.apart_finish _)) fun _ => again
      | ignored => exact .pure _
      | own number =>
          exact .bind (accounts.inHandler (keeps.onSignal number signal) signal false)
            fun _ => again
      | capture =>
          exact .bind (accounts.inHandler (accounts.handler keeps signal cause) signal true)
            fun _ => again
      | guard =>
          refine .bind (accounts.inHandler ?_ signal true) fun _ => again
          split
          · exact .bind (accounts.apart (Action.hidden_apart.say _ _)) fun _ =>
              .bind (ih .abort _) fun _ => accounts.apart (Action.apart_finish _)
          · exact .bind
              (accounts.untouched (Activation.hidden_ledger.handlers.setDisposition _ _ _))
              fun _ => .pure _

/-- A signal waits at a thread that blocks it, and is delivered else. -/
theorem send (signal : FatalSignal) (cause : SignalCause)
    : (Trap.send host signal cause).Safe inv := by
  refine .bind (accounts.apart (host.apart_askThread _)) fun isBlocked => ?_
  split
  · exact accounts.apart (Trap.apart_raiseBlocked host signal)
  · exact accounts.deliverWithin keeps _ signal cause

/-- Aborting keeps the account as sending the signal does. -/
theorem abort {α : Type} : (Trap.abort host : Action α).Safe inv :=
  .bind (accounts.apart (host.apart_modifyThread _)) fun _ =>
    .bind (accounts.send keeps _ _) fun _ => accounts.apart (Action.apart_finish _)

/-- The hook captures a panic while the monitor is on, and hands it on to an earlier hook. -/
theorem hook (cause : Panic.Cause) : (Panic.hook host cause).Safe inv := by
  refine .bind (accounts.ask _) fun isOn => ?_
  dsimp only
  split
  case' isTrue => refine .bind (keeps.panicked cause) fun _ => ?_
  all_goals
    refine .bind (accounts.ask _) fun previous => ?_
    cases previous with
    | none => exact .pure _
    | some hook => exact keeps.onPanic cause.text

/-- A panic inside of the hook aborts; any other one goes to the hook that is in place. -/
theorem panic (cause : Panic.Cause) : (Panic.run host cause).Safe inv := by
  refine .bind (accounts.apart (host.apart_askThread _)) fun isInside => ?_
  dsimp only
  split
  case' isTrue => refine .bind (accounts.abort keeps) fun _ => ?_
  all_goals
    refine .bind (accounts.apart (host.apart_modifyThread _)) fun _ => ?_
    refine .bind (accounts.ask _) fun hook => ?_
    split
    · exact .bind (accounts.hook keeps cause) fun _ => accounts.apart (host.apart_modifyThread _)
    · exact .bind (keeps.onPanic cause.text) fun _ => accounts.apart (host.apart_modifyThread _)

/-- A report is captured under an identifier of its own, and ends the process when it asks for
that.
-/
theorem submit (report : UserReport) : (report.submit host).Safe inv := by
  have last : (if report.terminate then Trap.abort host else pure ()).Safe inv := by
    split
    · exact accounts.abort keeps
    · exact .pure _
  refine .bind (accounts.ask _) fun isOn => ?_
  split
  · refine owns_bind.mpr ((keeps.reported report).mono fun id left owns => ?_)
    refine owns_bind.mpr ((accounts.apart_owns (Action.hidden_apart.diagnose _ _ _) left).mono ?_)
    rintro _ _ rfl
    exact Safe.after owns fun _ => last
  · exact accounts.apart (Action.hidden_apart.diagnose _ _ _)

/-- Whatever a program asks for, and whatever failure reaches it, keeps the account. -/
theorem perform (call : Call) : (call.perform host).Safe inv := by
  cases call with
  | setEnabled monitor on =>
      exact .bind (accounts.setEnabled on (fun _ => keeps.installed) monitor) fun _ => .pure _
  | setActive requested =>
      exact .bind
        (.bind (accounts.setEach requested keeps.installed _) fun _ =>
          .bind (accounts.ask _) fun _ =>
            .bind (accounts.apart (Action.hidden_apart.diagnose _ _ _)) fun _ => .pure _)
        fun _ => .pure _
  | disableAll => exact accounts.disableAll
  | notifyFatal inSignalHandler => exact .bind (keeps.notified inSignalHandler) fun _ => .pure _
  | setTermination on => exact accounts.untouched (.modify fun _ => rfl)
  | raise signal cause => exact accounts.send keeps signal cause
  | panic cause => exact accounts.panic keeps cause
  | submit report => exact accounts.submit keeps report

end Failures

-----------------------------------------------------------------------------------------
-- Events on their way
-----------------------------------------------------------------------------------------

omit accounts in
/-- An event is looked at by each monitor in turn, by induction on those left. -/
theorem annotateEach {event : Event} {good : Event → Prop} (holds : good event)
    (kept : ∀ event monitor, good event → good (Pipeline.annotate event monitor))
    (monitors : List Monitor) (share : ρ)
    : (Pipeline.annotateEach event monitors).Owns inv
        (fun result left => left = share ∧ good result) share := by
  induction monitors generalizing event with
  | nil => exact ⟨rfl, holds⟩
  | cons monitor rest ih =>
      refine owns_bind.mpr (owns_ask fun others process account => ⟨share, account, ?_⟩)
      split
      · exact ih (kept event monitor holds)
      · exact ih holds

/-- Handling an event costs what putting it on record does, in whatever state that is done. -/
theorem handle {callback : Event → Action Event} {share : ρ} {event : Event}
    (good : Event → Prop) (callbacks : ∀ event, (callback event).Safe inv)
    (flagged : ∀ crashed, good { event with crashedDuring := event.crashedDuring || crashed })
    (kept : ∀ event monitor, good event → good (Pipeline.annotate event monitor))
    (paid
      : ∀ event,
          good event
          → ∀ rest process,
              inv (share + rest) process → inv rest (process.record (.event event false)))
    : (Pipeline.handle (host.calling callback) event).Owns inv (fun _ _ => True) share := by
  refine owns_bind.mpr (owns_ask fun others process account => ⟨share, account, ?_⟩)
  refine owns_bind.mpr ((annotateEach (flagged _) kept _ share).mono ?_)
  rintro shown left ⟨same, holds⟩
  rw [same]
  have delivered
      : (Pipeline.deliver (host.calling callback) shown).Owns inv (fun _ _ => True) share := by
    refine owns_bind.mpr (owns_ask fun others process account => ⟨share, account, ?_⟩)
    split
    · refine owns_bind.mpr (owns_modify fun others process account => ⟨0, ?_, callbacks shown⟩)
      rw [zero_add]
      exact paid shown holds others process account
    · exact Safe.owns (.bind (accounts.apart (Action.hidden_apart.log _ _ _)) fun _ => .pure _)
        share
  refine Safe.after delivered fun result => ?_
  split
  · exact .bind accounts.disableAll fun _ => .pure _
  · exact .pure _

end Accounts

-----------------------------------------------------------------------------------------
-- Strands of a program
-----------------------------------------------------------------------------------------

/-- What a thread under watch does: calls whose events a callback gets, and anything else whose
steps put nothing on record, one after the other. Callbacks, handlers and hooks of the program
do such things as well.
-/
inductive Strand (admitted : Host → Prop) : {α : Type} → Action α → Prop where
  | own {α : Type} {action : Action α} : action.NeverTouches Process.ledger → Strand admitted action
  | bind {α β : Type} {first : Action α} {more : α → Action β}
      : Strand admitted first → (∀ value, Strand admitted (more value))
        → Strand admitted (first >>= more)
  | call {host : Host} {call : Call} {callback : Event → Action Event}
      : admitted host
        → (∀ event, Strand admitted (callback event))
        → (∀ number signal, Strand admitted (host.onSignal number signal))
        → (∀ text, Strand admitted (host.onPanic text))
        → Strand admitted (call.perform (host.calling callback))

/-- A strand keeps an account that its calls keep, by induction on how it is composed. -/
theorem Strand.safe {admitted : Host → Prop} (accounts : Accounts inv)
    (keeps
      : ∀ (host : Host) (callback : Event → Action Event),
          admitted host
          → (∀ event, (callback event).Safe inv)
          → (∀ number signal, (host.onSignal number signal).Safe inv)
          → (∀ text, (host.onPanic text).Safe inv)
          → (host.calling callback).Keeps inv)
    {α : Type} {action : Action α} (strand : Strand admitted action)
    : action.Safe inv := by
  induction strand with
  | own never => exact accounts.untouched never
  | bind _ _ first more => exact .bind first more
  | call allowed _ _ _ callbacks onSignal onPanic =>
      exact accounts.perform (keeps _ _ allowed callbacks onSignal onPanic) _

-----------------------------------------------------------------------------------------
-- Sample strands
-----------------------------------------------------------------------------------------

/-- The plainest surroundings, with identifiers of a program's own. -/
def Host.numbered (ids : Nat → EventId) : Host := { Host.plain with ids := ids }

/-- In the plainest surroundings only the callback can do more than record what reaches it. -/
theorem Strand.of_numbered {admitted : Host → Prop} {ids : Nat → EventId}
    (permitted : admitted (.numbered ids)) {call : Call} {callback : Event → Action Event}
    (callbacks : ∀ event, Strand admitted (callback event))
    : Strand admitted (call.perform ((Host.numbered ids).calling callback)) :=
  .call permitted callbacks
    (fun _ _ => .own (.comp (Action.hidden_apart.record rfl) Prod.snd))
    (fun _ => .own (.comp (Action.hidden_apart.record rfl) Prod.snd))

/-- A callback that fails itself the first time, by a signal. -/
def failingCallback (ids : Nat → EventId) (event : Event) : Action Event := do
  if !event.crashedDuring then
    (Call.raise .pipe { code := 0 }).perform ((Host.numbered ids).calling pure)
  return event

theorem failingCallback_strand {admitted : Host → Prop} {ids : Nat → EventId}
    (permitted : admitted (.numbered ids)) (event : Event)
    : Strand admitted (failingCallback ids event) := by
  unfold failingCallback
  dsimp only
  split
  · exact .bind (.of_numbered permitted fun _ => .own (.pure _)) fun _ => .own (.pure _)
  · exact .own (.pure _)

end CrashCapture
