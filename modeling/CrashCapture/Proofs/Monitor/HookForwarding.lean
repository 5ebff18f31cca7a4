import CrashCapture.Proofs.Monitor.Calls
import CrashCapture.Proofs.Monitor.Reraising

/-! The hook of panics. The monitor's hook stands in front of the program's own one from when
the monitor is turned on until it is turned off where the hook may be replaced; whatever is
turned on and off in between, and whatever fails, every panic comes to the program's hook once.
-/

namespace CrashCapture

open Steps

variable {host : Host} {process : Process} {inv : Process → Prop} {original : PanicHook}

-----------------------------------------------------------------------------------------
-- Steps that show nothing of hooks and panics
-----------------------------------------------------------------------------------------

/-- The hook, and each thread's panics that were not caught yet. -/
structure PanicState where
  hooks : Hooks
  panics : ThreadId → Nat

def Fittings.panicState (fittings : Fittings) : PanicState where
  hooks := fittings.hooks
  panics := fun thread => (fittings.threads thread).panics

def Process.panicState (process : Process) : PanicState := process.fittings.panicState

/-- What changes none of a thread's panics. -/
theorem Process.panicState_updateThread (process : Process) (thread : ThreadId)
    {change : ThreadState → ThreadState} (panics : ∀ state, (change state).panics = state.panics)
    : (process.updateThread thread change).panicState = process.panicState := by
  refine congrArg (PanicState.mk process.hooks) (funext fun other => ?_)
  show ((process.updateThread thread change).threads other).panics = _
  unfold updateThread
  dsimp only
  split
  next same => rw [same, panics]; rfl
  next => rfl

/-- A computation none of whose steps could show in it. -/
abbrev Action.Hookless {α : Type} (action : Action α) : Prop :=
  action.NeverTouches Process.panicState

/-- Stacks and handlers show nothing of the hook, nor of a thread's panics. -/
theorem Activation.hidden_panicState : Hidden Process.panicState where
  recorded _ _ _ := rfl
  mapping _ _ _ _ _ := rfl
  registered process thread stack := by
    refine process.panicState_updateThread thread fun state => ?_
    split <;> rfl
  disposition _ _ _ := rfl
  table _ _ := rfl

/-- Identifiers have no part in what panics go by. -/
theorem Host.hidden_panicState : Hidden Process.panicState where
  issued _ _ := rfl
  kept _ _ := rfl

/-- Switching the signal monitor has no part in what panics go by. -/
theorem Activation.hookless_setSignals (host : Host) (on : Bool)
    : (setSignals host on).Hookless :=
  hidden_panicState.setSignals Host.hidden_panicState (fun _ _ => rfl) host on

/-- An invariant about hooks and panics that switching the panic monitor keeps is kept by
switching any monitor.
-/
theorem setEnabled_of_setPanics
    (about
      : ∀ {before after : Process},
          after.panicState = before.panicState → inv before → inv after)
    {on : Bool} (panics : (Activation.setPanics host on).Maintains (fun _ => True) inv)
    (monitor : Monitor)
    : (Activation.setEnabled host on monitor).Maintains (fun _ => True) inv := by
  cases monitor with
  | signal =>
      exact .of_leaves (fun _ _ => trivial) about
        (Activation.hookless_setSignals host on).leaves
  | panic => exact panics
  | user =>
      have swap : (Activation.swap .user on).Hookless := .exchange fun _ => rfl
      exact .bind (.of_leaves (fun _ _ => trivial) about swap.leaves) fun _ => .pure _

/-- All that an event meets on its way keeps such an invariant. -/
theorem carried_of_setPanics
    (about
      : ∀ {before after : Process},
          after.panicState = before.panicState → inv before → inv after)
    (panics : (Activation.setPanics host false).Maintains (fun _ => True) inv)
    : Carried host (fun _ => True) inv where
  implied _ _ := trivial
  quiet quiet := .of_leaves (fun _ _ => trivial) about
    (quiet.comp fun view => view.2.panicState)
  handling process holds := by
    have same : Process.panicState { process with handling := true } = process.panicState := rfl
    exact about same holds
  crashed process holds := by
    have same
        : Process.panicState { process with crashedDuring := true } = process.panicState := rfl
    exact about same holds
  off := setEnabled_of_setPanics about panics

-----------------------------------------------------------------------------------------
-- One hook in front of the original one
-----------------------------------------------------------------------------------------

/-- The monitor's hook is registered exactly while it is marked as installed and an earlier hook
is on record, which then is the original one; otherwise that is registered. The monitor is on
only while its hook is installed.
-/
structure Hooked (original : PanicHook) (process : Process) : Prop where
  registered : process.hookInstalled = true ↔ process.hook = .capture
  recorded : process.hook = .capture ↔ process.previousHook.isSome = true
  earlier
    : ∀ previous, process.previousHook = some previous →
        previous = original ∧ previous ≠ .capture
  standing : process.hook ≠ .capture → process.hook = original
  enabled : process.enabled.panic = true → process.hookInstalled = true

namespace Hooked

/-- The account is seen from the hooks alone. -/
theorem of_hooks {after : Process} (hooked : Hooked original process)
    (same : after.hooks = process.hooks)
    : Hooked original after := by
  have hook : after.hook = process.hook := congrArg Hooks.hook same
  have previous : after.previousHook = process.previousHook := congrArg Hooks.previous same
  have installed : after.hookInstalled = process.hookInstalled :=
    congrArg Hooks.installed same
  have enabled : after.enabled.panic = process.enabled.panic := congrArg Hooks.enabled same
  refine ⟨?_, ?_, ?_, ?_, ?_⟩
  · rw [installed, hook]
    exact hooked.registered
  · rw [hook, previous]
    exact hooked.recorded
  · exact previous ▸ hooked.earlier
  · exact hook ▸ hooked.standing
  · rw [enabled, installed]
    exact hooked.enabled

/-- Before the monitor was ever on, the hook is the original one. -/
theorem at_start {start : Process} (off : start.enabled.panic = false)
    (uninstalled : start.hookInstalled = false) (unrecorded : start.previousHook = none)
    (foreign : start.hook ≠ .capture)
    : Hooked start.hook start := by
  refine ⟨?_, ?_, ?_, fun _ => rfl, ?_⟩
  · simp [uninstalled, foreign]
  · simp [unrecorded, foreign]
  · rw [unrecorded]
    nofun
  · exact fun on => absurd (off.symm.trans on) Bool.false_ne_true

/-- Clearing the flag is allowed at any time. -/
theorem switched_off (hooked : Hooked original process)
    : Hooked original { process with enabled := process.enabled.put false .panic } :=
  ⟨hooked.registered, hooked.recorded, hooked.earlier, hooked.standing, nofun⟩

/-- Setting the flag is allowed while the hook is installed. -/
theorem switched_on (hooked : Hooked original process)
    (installed : process.hookInstalled = true)
    : Hooked original { process with enabled := process.enabled.put true .panic } :=
  ⟨hooked.registered, hooked.recorded, hooked.earlier, hooked.standing, fun _ => installed⟩

end Hooked

namespace PanicHook

/-- Installing puts the monitor's hook in front of the original one, or changes nothing. -/
theorem install_hooked (hooked : Hooked original process)
    : (install host).Ensures (fun _ => True)
        (fun result after =>
          Hooked original after ∧ (result = .ok () → after.hookInstalled = true))
        process := by
  rw [install, ensures_bind, ensures_ask]
  refine ⟨trivial, ?_⟩
  cases installed : process.hookInstalled with
  | true => exact ⟨hooked, fun _ => installed⟩
  | false =>
      have other : process.hook ≠ .capture := fun registered =>
        absurd (hooked.registered.mpr registered) (by simp [installed])
      have earlier : process.hook = original := hooked.standing other
      rw [if_neg Bool.false_ne_true, ensures_bind, ensures_ask]
      refine ⟨trivial, ?_⟩
      split
      · exact ⟨hooked, nofun⟩
      · refine ensures_bind.mpr ⟨trivial, ?_⟩
        refine ensures_bind.mpr ⟨trivial, ensures_bind.mpr ⟨trivial, ?_⟩⟩
        refine ensures_bind.mpr ⟨trivial, ensures_bind.mpr ?_⟩
        have inFront : Hooked original { process with
            hook := .capture
            previousHook := some process.hook
            hookInstalled := true } := by
          refine ⟨by simp, by simp, ?_, fun unlike => absurd rfl unlike, fun _ => rfl⟩
          intro previous same
          obtain rfl := Option.some.inj same
          exact ⟨earlier, other⟩
        exact ((Action.hidden_fittings.diagnose _ _ _).leaves _).mono (fun _ _ => trivial)
          fun _ after same =>
            ⟨inFront.of_hooks (congrArg Fittings.hooks same),
              fun _ => congrArg Fittings.hookInstalled same⟩

/-- Removing puts the original hook back, or changes nothing. -/
theorem remove_hooked (hooked : Hooked original process)
    (off : process.enabled.panic = false)
    : (remove host).Ensures (fun _ => True) (fun _ => Hooked original) process := by
  rw [remove, ensures_bind, ensures_ask]
  refine ⟨trivial, ?_⟩
  cases installed : process.hookInstalled with
  | false => exact hooked
  | true =>
      rw [Bool.not_true, if_neg Bool.false_ne_true, ensures_bind, ensures_ask]
      refine ⟨trivial, ?_⟩
      split
      · exact hooked
      · have registered := hooked.registered.mp installed
        obtain ⟨previous, found⟩ := Option.isSome_iff_exists.mp (hooked.recorded.mp registered)
        obtain ⟨rfl, other⟩ := hooked.earlier previous found
        refine ensures_bind.mpr ⟨trivial, ensures_bind.mpr ⟨trivial, ?_⟩⟩
        dsimp only [id_def]
        rw [found]
        refine ensures_bind.mpr ⟨trivial, ensures_bind.mpr ⟨trivial, ?_⟩⟩
        have back : Hooked previous { process with
            hook := previous
            previousHook := none
            hookInstalled := false } := by
          refine ⟨by simpa using other, by simpa using other, nofun, fun _ => rfl, ?_⟩
          exact fun on => absurd (off.symm.trans on) (by decide)
        exact ((Action.hidden_fittings.diagnose _ _ _).leaves _).mono (fun _ _ => trivial)
          fun _ after same => back.of_hooks (congrArg Fittings.hooks same)

end PanicHook

/-- Whichever way and wherever the panic monitor is switched, the hook stays accounted for. -/
theorem setPanics_hooked (host : Host) (on : Bool)
    : (Activation.setPanics host on).Maintains (fun _ => True) (Hooked original) := by
  intro process hooked
  rw [Activation.setPanics, ensures_bind, ensures_ask]
  refine ⟨trivial, ?_⟩
  split
  · exact hooked
  · cases on with
    | false =>
        refine ensures_bind.mpr ⟨trivial, ensures_bind.mpr ?_⟩
        exact PanicHook.remove_hooked hooked.switched_off rfl
    | true =>
        refine ensures_bind.mpr ((PanicHook.install_hooked hooked).mono (fun _ _ => trivial) ?_)
        rintro result after ⟨kept, installed⟩
        cases result with
        | error failure => exact kept
        | ok _ => exact ⟨trivial, kept.switched_on (installed rfl)⟩

-----------------------------------------------------------------------------------------
-- Runs
-----------------------------------------------------------------------------------------

/-- The account of the hook is steady. -/
theorem hooked_steady : Steady (fun _ => True) (Hooked original) where
  implied _ _ := trivial
  settled leaves :=
    .of_leaves (fun _ _ => trivial) (fun same hooked => hooked.of_hooks same)
      (leaves.comp Prod.snd)

/-- All that an event meets on its way keeps the hook accounted for. -/
theorem hooked_carried (host : Host) : Carried host (fun _ => True) (Hooked original) :=
  carried_of_setPanics (fun same hooked => hooked.of_hooks (congrArg PanicState.hooks same))
    (setPanics_hooked host false)

/-- What does not touch the state of panics keeps the hook accounted for. -/
theorem hooked_hookless {α : Type} {action : Action α} (hookless : action.Hookless)
    : action.Maintains (fun _ => True) (Hooked original) :=
  .of_leaves (fun _ _ => trivial)
    (fun same hooked => hooked.of_hooks (congrArg PanicState.hooks same)) hookless.leaves

/-- Declining a signal keeps the hook accounted for. -/
theorem hooked_decline (host : Host)
    : (Trap.decline host).Maintains (fun _ => True) (Hooked original) := by
  have uninstall : (Activation.uninstallSignals host).Hookless :=
    Activation.hidden_panicState.uninstallSignals host
  have swap : (Activation.swap .signal false).Hookless := .exchange fun _ => rfl
  have note : Pipeline.notifyUnhandled.Hookless := .modify fun _ => rfl
  exact .bind (hooked_hookless swap) fun _ =>
    .bind (hooked_hookless uninstall) fun _ => hooked_hookless note

/-- Every call keeps the hook accounted for, wherever it comes from. -/
theorem hooked_perform (call : Call)
    (onEvent
      : ∀ event, (host.onEvent event).Maintains (fun _ => True) (Hooked original))
    (onSignal
      : ∀ number signal,
          (host.onSignal number signal).Maintains (fun _ => True) (Hooked original))
    (onPanic : ∀ text, (host.onPanic text).Maintains (fun _ => True) (Hooked original))
    : (call.perform host).Maintains (fun _ => True) (Hooked original) := by
  refine Call.maintains_of_steady hooked_steady (hooked_carried host)
    (.of_onEvent (hooked_carried host) (hooked_decline host) onEvent onSignal onPanic)
    (fun _ _ hooked => hooked.of_hooks rfl) (fun _ => ?_) fun sent _ _ _ _ => .inr ?_
  · exact setEnabled_of_setPanics
      (fun same hooked => hooked.of_hooks (congrArg PanicState.hooks same))
      (setPanics_hooked host true)
  · have disposed := Activation.hidden_panicState.handlers.setDisposition host.kernel.restore
      sent.1 .standard
    exact .bind (hooked_hookless disposed) fun _ => .pure _

/-- A composed run keeps the hook accounted for, call by call. -/
theorem run_hooked {α : Type} {run : Action α}
    (composed : Composed Process.hooks (fun _ _ => True) run)
    : run.Maintains (fun _ => True) (Hooked original) :=
  composed.maintains (fun _ _ => trivial) (fun same hooked => hooked.of_hooks same)
    fun _ call _ => hooked_perform call

-----------------------------------------------------------------------------------------
-- While a thread is in its hook
-----------------------------------------------------------------------------------------

/-- What a thread in its hook sees: the hook is what it was when the panic came, and the thread
still panics.
-/
structure Held (thread : ThreadId) (entered process : Process) : Prop where
  hook : process.hook = entered.hook
  previous : process.previousHook = entered.previousHook
  installed : process.hookInstalled = entered.hookInstalled
  panics : (process.threads thread).panics ≠ 0

namespace Held

variable {thread : ThreadId} {entered : Process}

/-- The hook is held as long as hooks and the panics of the thread stay as they are. -/
theorem of_hooks {after : Process} (held : Held thread entered process)
    (same : after.hooks = process.hooks)
    (panics : (after.threads thread).panics = (process.threads thread).panics)
    : Held thread entered after where
  hook := (congrArg Hooks.hook same).trans held.hook
  previous := (congrArg Hooks.previous same).trans held.previous
  installed := (congrArg Hooks.installed same).trans held.installed
  panics none := held.panics (panics.symm.trans none)

/-- The hook is held as long as the state of panics stays as it is. -/
theorem of_panicState {after : Process} (held : Held thread entered process)
    (same : after.panicState = process.panicState)
    : Held thread entered after :=
  held.of_hooks (congrArg PanicState.hooks same)
    (congrFun (congrArg PanicState.panics same) thread)

/-- No flag has a part in what is held. -/
theorem switched (held : Held thread entered process) (enabled : Selection)
    : Held thread entered { process with enabled := enabled } :=
  ⟨held.hook, held.previous, held.installed, held.panics⟩

/-- While a thread panics it cannot replace the hook. -/
theorem not_isFree (held : Held host.thread entered process)
    : PanicHook.isFree host process = false := by
  simp [PanicHook.isFree, held.panics]

end Held

namespace PanicHook

variable {entered : Process}

/-- The hook is neither put in front nor removed by a thread that panics. -/
theorem install_held (held : Held host.thread entered process)
    : (install host).Ensures (fun _ => True) (fun _ => Held host.thread entered) process := by
  rw [install, ensures_bind, ensures_ask]
  refine ⟨trivial, ?_⟩
  split
  · exact held
  · rw [ensures_bind, ensures_ask, held.not_isFree]
    exact ⟨trivial, held⟩

/-- Nothing is removed while the hook is held. -/
theorem remove_held (held : Held host.thread entered process)
    : (remove host).Ensures (fun _ => True) (fun _ => Held host.thread entered) process := by
  rw [remove, ensures_bind, ensures_ask]
  refine ⟨trivial, ?_⟩
  split
  · exact held
  · rw [ensures_bind, ensures_ask, held.not_isFree]
    exact ⟨trivial, held⟩

end PanicHook

/-- Switching the panic monitor in its own hook changes the flag at most. -/
theorem setPanics_held (host : Host) (on : Bool) {entered : Process}
    : (Activation.setPanics host on).Maintains (fun _ => True) (Held host.thread entered) := by
  intro process held
  rw [Activation.setPanics, ensures_bind, ensures_ask]
  refine ⟨trivial, ?_⟩
  split
  · exact held
  · cases on with
    | false =>
        refine ensures_bind.mpr ⟨trivial, ensures_bind.mpr ?_⟩
        exact PanicHook.remove_held (held.switched _)
    | true =>
        refine ensures_bind.mpr ((PanicHook.install_held held).mono (fun _ _ => trivial) ?_)
        intro result after kept
        cases result with
        | error failure => exact kept
        | ok _ => exact ⟨trivial, kept.switched _⟩

/-- All that an event meets on its way holds the hook. -/
theorem held_carried (host : Host) {entered : Process}
    : Carried host (fun _ => True) (Held host.thread entered) :=
  carried_of_setPanics (fun same held => held.of_panicState same) (setPanics_held host false)

/-- Calls of one thread that switch monitors or note failures, the ones that send no signal. -/
def Call.FromThread (thread : ThreadId) (host : Host) (call : Call) : Prop :=
  host.thread = thread ∧ call.sends = []

/-- What a panicking thread calls leaves the hook as it is, even where it turns off the
monitors.
-/
theorem held_perform {thread : ThreadId} {entered : Process} {call : Call}
    (asked : call.FromThread thread host)
    : (call.perform host).Maintains (fun _ => True) (Held thread entered) := by
  obtain ⟨rfl, silent⟩ := asked
  have carried : Carried host (fun _ => True) (Held host.thread entered) := held_carried host
  have set (on : Bool) (monitor : Monitor)
      : (Activation.setEnabled host on monitor).Maintains (fun _ => True)
          (Held host.thread entered) :=
    setEnabled_of_setPanics (fun same held => held.of_panicState same) (setPanics_held host on)
      monitor
  cases call with
  | setEnabled monitor on => exact .bind (set on monitor) fun _ => .pure _
  | setActive requested =>
      exact .bind (carried.setActive fun monitor => set _ monitor) fun _ => .pure _
  | disableAll => exact carried.disableAll
  | notifyFatal inSignalHandler =>
      exact .bind (carried.notifyFatal inSignalHandler) fun _ => .pure _
  | setTermination on =>
      exact .modify (fun _ _ => trivial) fun process held => held.of_hooks rfl rfl
  | raise signal cause => cases silent
  | panic cause => cases silent
  | submit report => cases silent

/-- Code that runs in a thread's hook: calls of that thread, and what leaves hooks and the
thread's panics alone.
-/
abbrev Action.InHook {α : Type} (thread : ThreadId) (action : Action α) : Prop :=
  Composed (fun process => (process.hooks, (process.threads thread).panics))
    (fun host call => call.FromThread thread host) action

/-- Whatever runs inside of a hook holds it. -/
theorem Action.InHook.maintains {α : Type} {thread : ThreadId} {action : Action α}
    (inside : action.InHook thread) {entered : Process}
    : action.Maintains (fun _ => True) (Held thread entered) :=
  Composed.maintains (fun _ _ => trivial)
    (fun same held => held.of_hooks (congrArg Prod.fst same) (congrArg Prod.snd same))
    (fun _ _ asked _ _ _ => held_perform asked) inside

-----------------------------------------------------------------------------------------
-- Captures without the program's hook
-----------------------------------------------------------------------------------------

/-- The host with another hook of the program's own. -/
def Host.hooking (host : Host) (onPanic : Option String → Action Unit) : Host :=
  { host with onPanic := onPanic }

/-- Another hook of the program does not move a host to another thread. -/
@[simp]
theorem Host.thread_hooking (host : Host) (onPanic : Option String → Action Unit)
    : (host.hooking onPanic).thread = host.thread := rfl

section Hooking

variable (host : Host) (onPanic : Option String → Action Unit)

/-- Restoring handlers does not ask the hook of the program, by induction on the slots left. -/
theorem Handlers.restoreSlots_hooking (indices : List (Fin savedCapacity))
    : restoreSlots (host.hooking onPanic) indices = restoreSlots host indices := by
  induction indices with
  | nil => rfl
  | cons index rest ih =>
      simp only [restoreSlots, ih]
      rfl

/-- Removing what is installed for signals does not ask the hook of the program. -/
theorem Activation.uninstallSignals_hooking
    : uninstallSignals (host.hooking onPanic) = uninstallSignals host := by
  simp only [uninstallSignals, Handlers.restore, Handlers.restoreSlots_hooking]
  rfl

/-- Turning a monitor off does not ask the hook of the program. -/
theorem Activation.setEnabled_false_hooking (monitor : Monitor)
    : setEnabled (host.hooking onPanic) false monitor = setEnabled host false monitor := by
  cases monitor with
  | signal =>
      simp only [setEnabled, setSignals, uninstallSignals_hooking]
      rfl
  | panic => rfl
  | user => rfl

/-- Turning monitors off does not ask the hook of the program, by induction on those left. -/
theorem Activation.disableEach_hooking (monitors : List Monitor)
    : disableEach (host.hooking onPanic) monitors = disableEach host monitors := by
  induction monitors with
  | nil => rfl
  | cons monitor rest ih => simp only [disableEach, ih, setEnabled_false_hooking]

/-- The note of a failure does not ask the hook of the program. -/
theorem Pipeline.notifyFatal_hooking (inSignalHandler : Bool)
    : notifyFatal (host.hooking onPanic) inSignalHandler = notifyFatal host inSignalHandler := by
  simp only [notifyFatal, Activation.disableAll, Activation.disableEach_hooking]

/-- Handling an event does not ask the hook of the program. -/
theorem Pipeline.handle_hooking (event : Event)
    : handle (host.hooking onPanic) event = handle host event := by
  simp only [handle, Activation.disableAll, Activation.disableEach_hooking]
  rfl

/-- Capturing a panic never comes to the program's hook. -/
theorem Panic.capture_hooking (cause : Cause)
    : capture (host.hooking onPanic) cause = capture host cause := by
  simp only [capture, Pipeline.notifyFatal_hooking, Pipeline.handle_hooking]
  rfl

end Hooking

-----------------------------------------------------------------------------------------
-- Every panic comes to the original hook
-----------------------------------------------------------------------------------------

namespace Panic

/-- A panic is captured to the end when the callback comes to its own. -/
theorem ends_capture (onEvent : ∀ event, (host.onEvent event).Ends) (cause : Cause)
    : (capture host cause).Ends := by
  refine .bind (.exchange _ _) fun id => .bind (.exchange _ _) fun isFatal => ?_
  dsimp only
  split
  case' isTrue => refine .bind (Pipeline.ends_notifyFatal host false) fun crashedDuring => ?_
  case' isFalse => refine .bind (.pure _) fun crashedDuring => ?_
  all_goals
    refine .bind Suspension.ends_begin fun suspension => ?_
    refine .bind (fun _ => ⟨_, _, rfl⟩) fun context => ?_
    exact .bind (Pipeline.ends_handle onEvent _) fun _ => suspension.ends_resume

/-- What comes before the program's hook: the capture, while the monitor is on. -/
def prelude (host : Host) (cause : Cause) : Action Unit := do
  if ← .ask (·.enabled.panic) then capture host cause

/-- What comes after it: the hook that is on record. -/
def forward (host : Host) (cause : Cause) : Action Unit := do
  match ← .ask (·.previousHook) with
  | some _ => host.onPanic cause.text
  | none => return ()

/-- The hook captures first and forwards then. -/
theorem hook_eq (host : Host) (cause : Cause)
    : hook host cause = prelude host cause >>= fun _ => forward host cause := by
  rw [hook, prelude, bind_assoc]
  refine congrArg _ (funext fun isOn => ?_)
  cases isOn <;> rfl

/-- All that the hook does before it forwards comes to an end. -/
theorem ends_prelude (onEvent : ∀ event, (host.onEvent event).Ends) (cause : Cause)
    : (prelude host cause).Ends := by
  refine .bind (.exchange _ _) fun isOn => ?_
  split
  · exact ends_capture onEvent cause
  · exact .pure _

/-- What all that an event meets on its way keeps, the prelude keeps. -/
theorem prelude_maintains (carried : Carried host (fun _ => True) inv)
    (onEvent : ∀ event, (host.onEvent event).Maintains (fun _ => True) inv) (cause : Cause)
    : (prelude host cause).Maintains (fun _ => True) inv := by
  refine .bind (carried.ask _) fun isOn => ?_
  split
  · exact capture_leads carried carried.toKept (carried.handle onEvent) cause
  · exact .pure _

/-- All that the hook does before it forwards does not ask the hook of the program. -/
theorem prelude_hooking (host : Host) (onPanic : Option String → Action Unit) (cause : Cause)
    : prelude (host.hooking onPanic) cause = prelude host cause := by
  simp only [prelude, capture_hooking]

/-- With an earlier hook on record, the monitor's hook is the prelude and then that hook. -/
theorem hook_run {found : Process} {cause : Cause} {previous : PanicHook}
    (captured : (prelude host cause).run process = (some (), found))
    (recorded : found.previousHook = some previous)
    : (hook host cause).run process = (host.onPanic cause.text).run found := by
  rw [hook_eq, run_bind, captured]
  dsimp only
  rw [forward, run_bind, run_ask, recorded]

end Panic

/-- A process when a panic has come to a thread. -/
def Process.panicking (process : Process) (thread : ThreadId) : Process :=
  process.updateThread thread fun state =>
    { state with panics := state.panics + 1, inPanicHook := true }

namespace Panic

/-- What comes after the program's hook. -/
def leave (host : Host) : Action Unit :=
  host.modifyThread fun thread =>
    { thread with panics := thread.panics - 1, inPanicHook := false }

/-- A panic outside of the thread's hook comes to what is registered. -/
theorem run_outside {cause : Cause}
    (outside : (process.threads host.thread).inPanicHook = false)
    : (run host cause).run process
      = (do
          match process.hook with
          | .capture => hook host cause
          | _ => host.onPanic cause.text
          leave host : Action Unit).run (process.panicking host.thread) := by
  rw [run, run_bind, Host.askThread, run_ask, outside]
  dsimp only
  rw [if_neg Bool.false_ne_true, run_bind, Host.modifyThread, run_modify]
  dsimp only
  rw [run_bind, run_ask]
  rfl

/-- Where the hook is accounted for, a panic goes through the prelude to a state from which the
program's hook runs, whichever it is, and that is all.
-/
theorem run_forwards (hooked : Hooked original process)
    (outside : (process.threads host.thread).inPanicHook = false)
    (ends : ∀ event, (host.onEvent event).Ends)
    (inside : ∀ event, (host.onEvent event).InHook host.thread) (cause : Cause)
    : ∃ found,
        (prelude host cause).run (process.panicking host.thread) = (some (), found)
        ∧ Hooked original found
        ∧ ∀ onPanic : Option String → Action Unit,
            (run (host.hooking onPanic) cause).run process
              = (onPanic cause.text >>= fun _ => leave host).run found := by
  obtain ⟨_, found, captured⟩ := ends_prelude ends cause (process.panicking host.thread)
  have entered : Hooked original (process.panicking host.thread) := hooked.of_hooks rfl
  have start : Held host.thread process (process.panicking host.thread) :=
    ⟨rfl, rfl, rfl, by simp [Process.panicking, Process.updateThread]⟩
  have held : Held host.thread process found :=
    (prelude_maintains (held_carried host) (fun event => (inside event).maintains) cause _
      start).run_eq captured
  have kept : Hooked original found := by
    refine (prelude_maintains (hooked_carried host) (fun event => ?_) cause _ entered).run_eq
      captured
    exact Composed.maintains (fun _ _ => trivial)
      (fun same hooked => hooked.of_hooks (congrArg Prod.fst same))
      (fun _ call _ => hooked_perform call) (inside event)
  refine ⟨found, captured, kept, fun onPanic => ?_⟩
  have prepared
      : (prelude (host.hooking onPanic) cause).run (process.panicking host.thread)
        = (some (), found) := by
    rw [prelude_hooking]
    exact captured
  have elsewhere : (process.threads (host.hooking onPanic).thread).inPanicHook = false :=
    outside
  rw [run_outside elsewhere, Host.thread_hooking]
  by_cases caught : process.hook = .capture
  · obtain ⟨previous, recorded⟩ := Option.isSome_iff_exists.mp (hooked.recorded.mp caught)
    rw [caught, run_bind, run_bind]
    dsimp only
    rw [hook_run prepared (held.previous.trans recorded)]
    rfl
  · -- The monitor is off, so that the prelude did nothing.
    have off : (process.panicking host.thread).enabled.panic = false := by
      cases on : process.enabled.panic with
      | false => exact on
      | true => exact absurd (hooked.registered.mp (hooked.enabled on)) caught
    have idle
        : (prelude host cause).run (process.panicking host.thread)
          = (some (), process.panicking host.thread) := by
      rw [prelude, run_bind, run_ask, off]
      rfl
    obtain rfl : process.panicking host.thread = found :=
      congrArg Prod.snd (idle.symm.trans captured)
    cases other : process.hook with
    | capture => exact absurd other caught
    | standard => rfl
    | own => rfl

end Panic

/-- A run starts with the panic monitor off and its hook not installed. Whenever the run has
ended, the monitor's hook is installed, registered and followed by another one all at once or
not at all, the other one is the original hook, and the monitor is on only while its own hook
is installed. From there every panic comes to the program's hook once, after a capture or
without one, although the callback or the event itself may have turned everything off.
-/
theorem panics_reach_original_hook {start : Process} (off : start.enabled.panic = false)
    (uninstalled : start.hookInstalled = false) (unrecorded : start.previousHook = none)
    (foreign : start.hook ≠ .capture) {α : Type} {run : Action α}
    (composed : Composed Process.hooks (fun _ _ => True) run)
    : ∀ result after,
        run.run start = (some result, after)
        → (after.hookInstalled = true ↔ after.hook = .capture)
          ∧ (after.hook = .capture ↔ after.previousHook.isSome = true)
          ∧ (∀ previous, after.previousHook = some previous →
              previous = start.hook ∧ previous ≠ .capture)
          ∧ (after.hook ≠ .capture → after.hook = start.hook)
          ∧ (after.enabled.panic = true → after.hookInstalled = true)
          ∧ ∀ (host : Host) (cause : Panic.Cause),
              (after.threads host.thread).inPanicHook = false
              → (∀ event, (host.onEvent event).Ends)
              → (∀ event, (host.onEvent event).InHook host.thread)
              → ∃ found,
                  (Panic.prelude host cause).run (after.panicking host.thread)
                    = (some (), found)
                  ∧ Hooked start.hook found
                  ∧ ∀ onPanic : Option String → Action Unit,
                      (Panic.run (host.hooking onPanic) cause).run after
                        = (onPanic cause.text >>= fun _ => Panic.leave host).run found := by
  have begins := Hooked.at_start off uninstalled unrecorded foreign
  intro result after ends
  have hooked : Hooked start.hook after := (run_hooked composed start begins).run_eq ends
  exact ⟨hooked.registered, hooked.recorded, hooked.earlier, hooked.standing, hooked.enabled,
    fun host cause outside ends inside => Panic.run_forwards hooked outside ends inside cause⟩

/-- The panic monitor is turned on, and a fatal failure is noted. -/
def notedFailure : Action Unit := do
  (Call.setEnabled .panic true).perform .plain
  (Call.notifyFatal false).perform .plain

/-- A panic in the course of a fatal failure turns every monitor off, and comes to the standard
hook all the same.
-/
theorem panics_reach_original_hook_of_noted_failure
    : ∃ after found,
        notedFailure.run .fresh = (some (), after)
        ∧ after.previousHook = some .standard
        ∧ (Panic.prelude .plain {}).run (after.panicking ⟨1⟩) = (some (), found)
        ∧ after.enabled.panic = true
        ∧ found.enabled = .none
        ∧ found.hook = .capture
        ∧ ∀ onPanic : Option String → Action Unit,
            (Panic.run (Host.plain.hooking onPanic) {}).run after
              = (onPanic none >>= fun _ => Panic.leave .plain).run found := by
  have composed : Composed Process.hooks (fun _ _ => True) notedFailure :=
    .bind (.of_plain trivial fun _ _ => rfl) fun _ => .of_plain trivial fun _ _ => rfl
  have noted : (notedFailure.run .fresh).1 = some () := by decide +kernel
  have ended : notedFailure.run .fresh = (some (), (notedFailure.run .fresh).2) :=
    Prod.ext noted rfl
  have outside
      : ((notedFailure.run .fresh).2.threads Host.plain.thread).inPanicHook = false := by
    decide +kernel
  have inside (event : Event) : (Host.plain.onEvent event).InHook Host.plain.thread :=
    .own (.bind (.ask _) fun _ => .bind (.modify fun _ => rfl) fun _ => .pure _)
  have reached :=
    panics_reach_original_hook rfl rfl rfl (by decide) composed () _ ended
  obtain ⟨found, prelude, _, forwards⟩ :=
    reached.2.2.2.2.2 .plain {} outside Host.discreet_plain.ends inside
  have captured
      : ((Panic.prelude .plain {}).run
          ((notedFailure.run .fresh).2.panicking Host.plain.thread)).2 = found :=
    congrArg Prod.snd prelude
  refine ⟨_, found, ended, by decide +kernel, prelude, by decide +kernel, ?_, ?_, forwards⟩
  · rw [← captured]
    decide +kernel
  · rw [← captured]
    decide +kernel

end CrashCapture
