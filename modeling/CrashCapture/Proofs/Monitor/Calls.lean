import CrashCapture.Proofs.Monitor.Upkeep

/-! Runs of a program under watch. It switches monitors, failures reach it, and in between it
does what is its own business; its callback, its handlers and its hook may do all of this
again while a call of theirs is being answered.
-/

namespace CrashCapture

open Steps

variable {host : Host} {always inv : Process → Prop}

-----------------------------------------------------------------------------------------
-- Calls
-----------------------------------------------------------------------------------------

/-- What a program asks for, and the failures that reach its monitors. -/
inductive Call where
  | setEnabled (monitor : Monitor) (on : Bool)
  | setActive (requested : Selection)
  | disableAll
  | notifyFatal (inSignalHandler : Bool)
  /-- Whether termination is to be captured. -/
  | setTermination (on : Bool)
  | raise (signal : FatalSignal) (cause : SignalCause)
  | panic (cause : Panic.Cause)
  | submit (report : UserReport)

namespace Call

def perform (host : Host) : Call → Action Unit
  | .setEnabled monitor on => do
    let _ ← Activation.setEnabled host on monitor
    return ()
  | .setActive requested => do
    let _ ← Activation.setActive host requested
    return ()
  | .disableAll => Activation.disableAll host
  | .notifyFatal inSignalHandler => do
    let _ ← Pipeline.notifyFatal host inSignalHandler
    return ()
  | .setTermination on => .modify fun process => { process with sigterm := on }
  | .raise signal cause => Trap.send host signal cause
  | .panic cause => Panic.run host cause
  | .submit report => report.submit host

/-- Whether the call can turn a monitor on. -/
def enables : Call → Bool
  | .setEnabled _ on => on
  | .setActive requested => requested ≠ .none
  | _ => false

/-- The signals that the call may send, with the addresses of their faults. -/
def sends : Call → List (FatalSignal × Address)
  | .raise signal cause => [(signal, cause.address), (signal, .null), (.abort, .null)]
  | .panic _ => [(.abort, .null)]
  | .submit _ => [(.abort, .null)]
  | _ => []

end Call

/-- Turning monitors on keeps the invariant. -/
structure Host.Raises (host : Host) (always inv : Process → Prop) : Prop where
  on : (Activation.setSignals host true).Maintains always inv
  raised
    : ∀ monitor ≠ .signal, ∀ process,
        inv process → inv { process with enabled := process.enabled.put true monitor }

/-- One call keeps an invariant that its host upholds. Only calls that turn monitors on ask
more of the host than failures do.
-/
theorem Call.maintains_of_steady (steady : Steady always inv)
    (carried : Carried host always inv) (upholds : host.Upholds always inv)
    (gated : ∀ on process, inv process → inv { process with sigterm := on }) {call : Call}
    (raises
      : call.enables = true → ∀ monitor,
          (Activation.setEnabled host true monitor).Maintains always inv)
    (spared
      : ∀ sent ∈ call.sends, Trap.Spared host always inv sent.1 sent.2)
    : (call.perform host).Maintains always inv := by
  have set (on : Bool) (monitor : Monitor) (permitted : on = true → call.enables = true)
      : (Activation.setEnabled host on monitor).Maintains always inv := by
    cases on with
    | false => exact carried.off monitor
    | true => exact raises (permitted rfl) monitor
  cases call with
  | setEnabled monitor on => exact .bind (set on monitor fun wanted => wanted) fun _ => .pure _
  | setActive requested =>
      refine .bind (carried.setActive fun monitor => set _ monitor fun wanted => ?_) fun _ =>
        .pure _
      refine decide_eq_true fun nothing => ?_
      cases monitor <;> simp [nothing, Selection.contains, Selection.none] at wanted
  | disableAll => exact carried.disableAll
  | notifyFatal inSignalHandler =>
      exact .bind (carried.notifyFatal inSignalHandler) fun _ => .pure _
  | setTermination on => exact .modify steady.implied (gated on)
  | raise signal cause =>
      exact steady.send upholds (spared (.abort, .null) (by simp [sends]))
        (spared (signal, cause.address) (by simp [sends]))
        (spared (signal, .null) (by simp [sends]))
  | panic cause =>
      exact steady.panic upholds (spared (.abort, .null) (by simp [sends])) cause
  | submit report =>
      exact steady.report upholds (spared (.abort, .null) (by simp [sends])) report

/-- One call keeps an invariant about what the monitors go by. -/
theorem Call.maintains (upheld : Upheld always inv) (upholds : host.Upholds always inv)
    (gated : ∀ on process, inv process → inv { process with sigterm := on }) {call : Call}
    (raises : call.enables = true → host.Raises always inv)
    (spared
      : ∀ sent ∈ call.sends, Trap.Spared host always inv sent.1 sent.2)
    : (call.perform host).Maintains always inv :=
  maintains_of_steady upheld.steady (upheld.carried upholds.off) upholds gated
    (fun enabling => upheld.setEnabled (raises enabling).on (raises enabling).raised) spared

-----------------------------------------------------------------------------------------
-- Runs
-----------------------------------------------------------------------------------------

/-- The plainest surroundings: one thread, memory that cannot be read and no list of threads.
-/
def Host.plain : Host where
  surroundings := {
    currentThread := ⟨1⟩
    memory := { read? := fun _ _ => none, length_read := by simp }
    tasks := {} }

/-- What a program under watch does: calls, and anything else that leaves alone what `view`
shows, one after the other. The callback, handlers and hook of the program do such things as
well.
-/
inductive Composed {τ : Type} (view : Process → τ) (admitted : Host → Call → Prop)
    : {α : Type} → Action α → Prop where
  | own {α : Type} {action : Action α} : action.Leaves view → Composed view admitted action
  | bind {α β : Type} {first : Action α} {more : α → Action β}
      : Composed view admitted first → (∀ value, Composed view admitted (more value))
        → Composed view admitted (first >>= more)
  | call {host : Host} {call : Call}
      : admitted host call
        → (∀ event, Composed view admitted (host.onEvent event))
        → (∀ number signal, Composed view admitted (host.onSignal number signal))
        → (∀ text, Composed view admitted (host.onPanic text))
        → Composed view admitted (call.perform host)

/-- A process before the program has done anything. -/
def Process.fresh : Process := { dispositions := .atStart }

/-- A signal that was ignored before comes while its monitor is on; the process goes on. -/
def survivedSignal : Action Unit := do
  (Call.setEnabled .signal true).perform .plain
  (Call.raise .pipe { code := 0 }).perform .plain

/-- In the plainest surroundings the program does nothing but record what reaches it. -/
theorem Composed.of_plain {τ : Type} {view : Process → τ} {admitted : Host → Call → Prop}
    {call : Call} (permitted : admitted .plain call)
    (recorded : ∀ process happening, view (Process.record process happening) = view process)
    : Composed view admitted (call.perform .plain) :=
  .call permitted
    (fun _ => .own (.bind (.ask _) fun _ =>
      .bind (.modify fun process => recorded process _) fun _ => .pure _))
    (fun _ _ => .own (.modify fun process => recorded process _))
    (fun _ => .own (.modify fun process => recorded process _))

/-- A run keeps what every admitted call keeps, by induction on how the run is composed. -/
theorem Composed.maintains {τ : Type} {view : Process → τ} {admitted : Host → Call → Prop}
    (implied : ∀ process, inv process → always process)
    (about : ∀ {before after : Process}, view after = view before → inv before → inv after)
    (calls
      : ∀ host call,
          admitted host call
          → (∀ event, (host.onEvent event).Maintains always inv)
          → (∀ number signal, (host.onSignal number signal).Maintains always inv)
          → (∀ text, (host.onPanic text).Maintains always inv)
          → (call.perform host).Maintains always inv)
    {α : Type} {action : Action α} (composed : Composed view admitted action)
    : action.Maintains always inv := by
  induction composed with
  | own leaves => exact .of_leaves implied about leaves
  | bind _ _ first more => exact .bind first more
  | call allowed _ _ _ onEvent onSignal onPanic =>
      exact calls _ _ allowed onEvent onSignal onPanic

end CrashCapture
