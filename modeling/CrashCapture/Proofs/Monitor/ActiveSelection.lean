import CrashCapture.Proofs.Monitor.HookRemoval

/-! Which monitors are on after a selection of them was requested. Each monitor is judged by
itself: a requested one is on in the end if it was on before or if what it needs can be
installed, and what becomes of the others has no part in that.
-/

namespace CrashCapture

open Steps

variable {host : Host} {process : Process}

-----------------------------------------------------------------------------------------
-- What can be installed
-----------------------------------------------------------------------------------------

/-- A stack is mapped or can be mapped, and the running thread can have it registered. -/
structure AltStack.Ready (host : Host) (process : Process) : Prop where
  mapped
    : process.altStack.isSome = true
      ∨ host.kernel.mapStack = none ∧ host.kernel.guardStack = none
  accepted : host.kernel.registerStack = none
  ashore : (process.threads host.thread).onAltStack = false

/-- Putting one monitor in or out leaves the others as they are. -/
theorem Selection.contains_put (selection : Selection) (on : Bool) (monitor other : Monitor)
    : (selection.put on monitor).contains other
      = if other = monitor then on else selection.contains other := by
  cases monitor <;> cases other <;> rfl

/-- Putting a monitor as it is already changes nothing. -/
theorem Selection.put_contains (selection : Selection) (monitor : Monitor)
    : selection.put (selection.contains monitor) monitor = selection := by
  cases monitor <;> rfl

/-- Whether all that a monitor needs can be installed. -/
def Installable (host : Host) (process : Process) : Monitor → Prop
  | .signal =>
    AltStack.Ready host process ∧ ∀ signal, host.kernel.install signal = none
  | .panic => process.hookInstalled = true ∨ PanicHook.isFree host process = true
  | .user => True

/-- A monitor can be on: it is already, or what it needs can be installed. -/
def Available (host : Host) (process : Process) (monitor : Monitor) : Prop :=
  process.enabled.contains monitor = true ∨ Installable host process monitor

/-- The stack that is mapped, and what the threads have registered. -/
def Process.stacks (process : Process) : Option Address × (ThreadId → ThreadState) :=
  (process.altStack, process.threads)

/-- Replacing the hook touches no stack. -/
theorem PanicHook.hidden_stacks : Hidden Process.stacks where
  recorded _ _ _ := rfl
  hooks _ _ _ _ := rfl

/-- Whether a stack is ready is seen from what is mapped and registered. -/
theorem AltStack.Ready.of_stacks {after : Process} (same : after.stacks = process.stacks)
    (ready : Ready host process)
    : Ready host after where
  mapped := by
    rw [show after.altStack = process.altStack from congrArg Prod.fst same]
    exact ready.mapped
  accepted := ready.accepted
  ashore := by
    rw [show after.threads = process.threads from congrArg Prod.snd same]
    exact ready.ashore

/-- Whether handlers can be installed is up to the stacks, apart from the kernel. -/
theorem installable_signal_iff {after : Process} (same : after.stacks = process.stacks)
    : Installable host after .signal ↔ Installable host process .signal :=
  and_congr_left fun _ => ⟨.of_stacks same.symm, .of_stacks same⟩

/-- Whether the hook can be installed is up to the state of hooks. -/
theorem installable_panic_iff {after : Process} (same : after.hookState = process.hookState)
    : Installable host after .panic ↔ Installable host process .panic := by
  have installed : after.hookInstalled = process.hookInstalled :=
    congrArg (·.1.hooks.installed) same
  rw [Installable, installed, PanicHook.isFree_eq same]
  rfl

/-- Nothing on record decides what can be installed. -/
theorem installable_record (happening : Happening) (monitor : Monitor)
    : Installable host (process.record happening) monitor
      ↔ Installable host process monitor := by
  cases monitor with
  | signal => exact installable_signal_iff rfl
  | panic => exact installable_panic_iff rfl
  | user => exact Iff.rfl

/-- A failure is no success, and rightly so where what a success calls for is missing. -/
theorem failed_iff {failure kind : Type} {reason : failure} {result : kind} {needed : Prop}
    (missing : ¬ needed)
    : Except.error reason = Except.ok result ↔ needed :=
  iff_of_false (fun same => by cases same) missing

namespace AltStack

/-- A stack is provided just if one is mapped or one can be mapped and guarded; threads are
left alone.
-/
theorem provide_isOk (host : Host) (process : Process)
    : (provide host).Ensures (fun _ => True)
        (fun result after =>
          (result.isOk = true
            ↔ process.altStack.isSome = true
              ∨ host.kernel.mapStack = none ∧ host.kernel.guardStack = none)
          ∧ after.threads = process.threads)
        process := by
  rw [provide, ensures_bind, ensures_ask]
  refine ⟨trivial, ?_⟩
  cases process.altStack with
  | some stack => simp [Except.isOk, Except.toBool]
  | none =>
      cases host.kernel.mapStack with
      | some errno => simp [Except.isOk, Except.toBool]
      | none =>
          refine ensures_bind.mpr ⟨trivial, ?_⟩
          cases host.kernel.guardStack with
          | some errno => exact ⟨trivial, by simp [Except.isOk, Except.toBool], rfl⟩
          | none => exact ⟨trivial, trivial, by simp [Except.isOk, Except.toBool], rfl⟩

/-- A stack is registered just if the kernel accepts it and the thread does not run on one. -/
theorem register_isOk (host : Host) (process : Process) (stack : Option Address)
    : (register host stack).Ensures (fun _ => True)
        (fun result _ =>
          result.isOk = true
          ↔ host.kernel.registerStack = none
            ∧ (process.threads host.thread).onAltStack = false)
        process := by
  rw [register]
  cases host.kernel.registerStack with
  | some errno => simp [Except.isOk, Except.toBool]
  | none =>
      rw [ensures_exchange]
      cases aboard : (process.threads host.thread).onAltStack <;>
        simp [aboard, Except.isOk, Except.toBool]

/-- The stack is installed just if it can be provided and its registration is accepted. -/
theorem install_ok (host : Host) (process : Process)
    : (install host).Ensures (fun _ => True)
        (fun result _ => result = .ok () ↔ Ready host process) process := by
  rw [install, ensures_bind]
  refine (provide_isOk host process).mono (fun _ _ => trivial) ?_
  rintro (failure | stack) found ⟨provided, threads⟩
  · refine failed_iff fun ready => ?_
    cases provided.mpr ready.mapped
  · rw [ensures_bind]
    refine (register_isOk host found (some stack)).mono (fun _ _ => trivial) ?_
    rw [threads]
    rintro (errno | previous) registering registered
    · refine failed_iff fun ready => ?_
      cases registered.mpr ⟨ready.accepted, ready.ashore⟩
    · obtain ⟨accepted, ashore⟩ := registered.mp rfl
      have ready : Ready host process := ⟨provided.mp rfl, accepted, ashore⟩
      dsimp only
      split
      · exact ⟨trivial, iff_of_true rfl ready⟩
      · exact iff_of_true rfl ready

end AltStack

namespace Handlers

/-- The handlers of some signals are installed just if none is refused, by induction on the
places.
-/
theorem installEach_ok (host : Host) (process : Process)
    (places : List (FatalSignal × Fin savedCapacity))
    : (installEach host places).Ensures (fun _ => True)
        (fun result _ =>
          result = .ok () ↔ ∀ place ∈ places, host.kernel.install place.1 = none)
        process := by
  induction places generalizing process with
  | nil => exact iff_of_true rfl (List.forall_mem_nil _)
  | cons place rest ih =>
      obtain ⟨signal, index⟩ := place
      rw [installEach, ensures_bind, setDisposition]
      cases refusal : host.kernel.install signal with
      | none =>
          refine ⟨trivial, trivial, trivial, ?_⟩
          refine (ih _).mono (fun _ _ => trivial) fun result _ tried => ?_
          simp [tried, refusal]
      | some errno =>
          have refused
              : ¬ ∀ place ∈ (signal, index) :: rest, host.kernel.install place.1 = none :=
            fun all => by cases refusal.symm.trans (all _ List.mem_cons_self)
          refine ensures_bind.mpr ⟨trivial, ensures_bind.mpr ?_⟩
          exact ((Handlers.hidden_fittings.restore host).leaves _).mono (fun _ _ => trivial)
            fun _ _ _ => failed_iff refused

/-- Handlers are installed just if the kernel refuses none of them. -/
theorem install_ok (host : Host) (process : Process)
    : (install host).Ensures (fun _ => True)
        (fun result _ => result = .ok () ↔ ∀ signal, host.kernel.install signal = none)
        process := by
  rw [install_eq]
  refine (installEach_ok host process _).mono (fun _ _ => trivial) fun result _ tried => ?_
  rw [tried, List.forall_mem_map]
  exact ⟨fun all signal => all signal signal.mem_all, fun all signal _ => all signal⟩

end Handlers

/-- The hook is installed just if it was before or none is being replaced. -/
theorem PanicHook.install_ok (host : Host) (process : Process)
    : (install host).Ensures (fun _ => True)
        (fun result _ =>
          result = .ok () ↔ process.hookInstalled = true ∨ isFree host process = true)
        process := by
  rw [install, ensures_bind, ensures_ask]
  refine ⟨trivial, ?_⟩
  cases process.hookInstalled with
  | true => exact iff_of_true rfl (.inl rfl)
  | false =>
      simp only [Bool.false_eq_true, if_false, ensures_bind, ensures_ask]
      cases isFree host process with
      | true =>
          refine ⟨trivial, trivial, trivial, trivial, trivial, trivial, ?_⟩
          exact iff_of_true rfl (.inr rfl)
      | false => simp

namespace Activation

/-- The stack and the handlers are installed together or not at all. -/
theorem installHandlers_ok (host : Host) (process : Process)
    : (installHandlers host).Ensures (fun _ => True)
        (fun result _ => result = .ok () ↔ Installable host process .signal) process := by
  rw [installHandlers, ensures_bind]
  refine (AltStack.install_ok host process).mono (fun _ _ => trivial) ?_
  rintro (failure | _) found ready
  · exact failed_iff fun installable => by cases ready.mpr installable.1
  · rw [ensures_bind]
    refine (Handlers.install_ok host found).mono (fun _ _ => trivial) ?_
    rintro (failure | _) after accepted
    · refine ensures_bind.mpr
        (((AltStack.hidden_core.release host).leaves after).mono (fun _ _ => trivial) ?_)
      exact fun _ _ _ => failed_iff fun installable => by cases accepted.mpr installable.2
    · exact iff_of_true rfl ⟨ready.mp rfl, accepted.mp rfl⟩

/-- Installing for signals succeeds just if stack and handlers can be installed. -/
theorem installSignals_ok (host : Host) (process : Process)
    : (installSignals host).Ensures (fun _ => True)
        (fun result _ => result = .ok () ↔ Installable host process .signal) process := by
  let named : Process :=
    { process with issued := process.issued + 1, signalId := host.ids process.issued }
  have same : Installable host named .signal ↔ Installable host process .signal :=
    installable_signal_iff rfl
  rw [installSignals, ensures_bind]
  refine ⟨trivial, ensures_bind.mpr ⟨trivial, trivial, ensures_bind.mpr ?_⟩⟩
  refine (installHandlers_ok host named).mono (fun _ _ => trivial) ?_
  rintro (failure | _) found installed
  · exact failed_iff fun installable => by cases installed.mpr (same.mpr installable)
  · exact ⟨trivial, iff_of_true rfl (same.mp (installed.mp rfl))⟩

-----------------------------------------------------------------------------------------
-- One monitor
-----------------------------------------------------------------------------------------

/-- What becomes of a monitor that is turned on or off. Only its own flag changes, which is set
just if it should be and the monitor can be on; and to turn it on succeeds just if it can.
-/
structure Switched (host : Host) (before : Process) (on : Bool) (monitor : Monitor)
    (result : Except Failure Unit) (after : Process) : Prop where
  answered : on = true → (result = .ok () ↔ Available host before monitor)
  own : after.enabled.contains monitor = true ↔ on = true ∧ Available host before monitor
  others : ∀ other ≠ monitor, after.enabled.contains other = before.enabled.contains other

section Outcomes

variable {after : Process} {monitor : Monitor}

/-- A monitor that is available is on once its flag was set. -/
theorem Switched.turnedOn (same : after.enabled = process.enabled.put true monitor)
    (available : Available host process monitor)
    : Switched host process true monitor (.ok ()) after where
  answered _ := iff_of_true rfl available
  own := by
    rw [same, Selection.contains_put, if_pos rfl]
    exact iff_of_true rfl ⟨rfl, available⟩
  others other unlike := by rw [same, Selection.contains_put, if_neg unlike]

/-- A monitor that is not available stays off, with a failure. -/
theorem Switched.refused {failure : Failure}
    (same : after.enabled = process.enabled.put false monitor)
    (unavailable : ¬ Available host process monitor)
    : Switched host process true monitor (.error failure) after where
  answered _ := failed_iff unavailable
  own := by
    rw [same, Selection.contains_put, if_pos rfl]
    exact iff_of_false Bool.false_ne_true fun both => unavailable both.2
  others other unlike := by rw [same, Selection.contains_put, if_neg unlike]

/-- A monitor is off once its flag was cleared, whatever the answer. -/
theorem Switched.turnedOff {result : Except Failure Unit}
    (same : after.enabled = process.enabled.put false monitor)
    : Switched host process false monitor result after where
  answered on := absurd on Bool.false_ne_true
  own := by
    rw [same, Selection.contains_put, if_pos rfl]
    exact iff_of_false Bool.false_ne_true fun both => Bool.false_ne_true both.1
  others other unlike := by rw [same, Selection.contains_put, if_neg unlike]

end Outcomes

/-- The flag of signals is set before anything is installed, and taken back after a failure. -/
theorem setSignals_switches (host : Host) (process : Process)
    : (setSignals host true).Ensures (fun _ => True) (Switched host process true .signal)
        process := by
  let switched : Process := { process with enabled := process.enabled.put true .signal }
  rw [setSignals, ensures_bind, ensures_swap]
  refine ⟨trivial, ?_⟩
  cases was : process.enabled.signal with
  | true =>
      simp only [Selection.contains, was]
      exact .turnedOn rfl (.inl was)
  | false =>
      have same : Installable host switched .signal ↔ Installable host process .signal :=
        installable_signal_iff rfl
      simp only [Selection.contains, was]
      refine ensures_bind.mpr ?_
      refine ((installSignals_ok host switched).and
        (unwatched_installSignals host switched)).mono (fun _ _ => trivial) ?_
      rintro (failure | _) after ⟨installed, unwatched⟩
      · have flags : after.enabled = process.enabled.put true .signal :=
          congrArg Watch.enabled unwatched
        have takenBack : after.enabled.put false .signal = process.enabled.put false .signal := by
          rw [flags]
          rfl
        refine ⟨trivial, .refused takenBack ?_⟩
        rintro (on | installable)
        · exact Bool.eq_false_iff.mp was on
        · cases installed.mpr (same.mpr installable)
      · exact .turnedOn (congrArg Watch.enabled unwatched) (.inr (same.mp (installed.mp rfl)))

/-- The flag of panics is set after the hook is installed. -/
theorem setPanics_switches (host : Host) (process : Process)
    : (setPanics host true).Ensures (fun _ => True) (Switched host process true .panic)
        process := by
  have kept := process.enabled.put_contains .panic
  rw [setPanics, ensures_bind, ensures_ask]
  refine ⟨trivial, ?_⟩
  cases was : process.enabled.panic with
  | true =>
      rw [Selection.contains, was] at kept
      exact .turnedOn kept.symm (.inl was)
  | false =>
      rw [Selection.contains, was] at kept
      refine ensures_bind.mpr ?_
      refine ((PanicHook.install_ok host process).and
        ((PanicHook.hidden_watch.install host).leaves process)).mono (fun _ _ => trivial) ?_
      rintro (failure | _) after ⟨installed, unwatched⟩
      · have flags : after.enabled = process.enabled := congrArg Watch.enabled unwatched
        refine .refused (flags.trans kept.symm) ?_
        rintro (on | installable)
        · exact Bool.eq_false_iff.mp was on
        · cases installed.mpr installable
      · have flags : after.enabled.put true .panic = process.enabled.put true .panic :=
          congrArg (·.enabled.put true .panic) unwatched
        exact ⟨trivial, .turnedOn flags (.inr (installed.mp rfl))⟩

/-- Switching one monitor does what is available of it, for each of the three. -/
theorem setEnabled_switches (host : Host) (process : Process) (on : Bool) (monitor : Monitor)
    : (setEnabled host on monitor).Ensures (fun _ => True) (Switched host process on monitor)
        process := by
  cases on with
  | false =>
      refine (setEnabled_false_ensures host process monitor).mono (fun _ _ => trivial) ?_
      exact fun _ after same => .turnedOff (congrArg Watch.enabled same)
  | true =>
      cases monitor with
      | signal => exact setSignals_switches host process
      | panic => exact setPanics_switches host process
      | user => exact ⟨trivial, .turnedOn rfl (.inr trivial)⟩

-----------------------------------------------------------------------------------------
-- One monitor after the other
-----------------------------------------------------------------------------------------

/-- What the other monitors need is not touched. -/
theorem setEnabled_keeps_installable (host : Host) (process : Process) (on : Bool)
    (monitor : Monitor)
    : (setEnabled host on monitor).Ensures (fun _ => True)
        (fun _ after =>
          ∀ other ≠ monitor, Installable host after other ↔ Installable host process other)
        process := by
  cases monitor with
  | signal =>
      have leaves : (setEnabled host on .signal).Leaves Process.hookState :=
        setEnabled_leaves host on nofun
      refine (leaves process).mono (fun _ _ => trivial) ?_
      intro _ after same other unlike
      cases other with
      | signal => exact absurd rfl unlike
      | panic => exact installable_panic_iff same
      | user => exact Iff.rfl
  | panic =>
      refine ((PanicHook.hidden_stacks.setPanics (fun _ _ => rfl) host on).leaves process).mono
        (fun _ _ => trivial) ?_
      intro _ after same other unlike
      cases other with
      | signal => exact installable_signal_iff same
      | panic => exact absurd rfl unlike
      | user => exact Iff.rfl
  | user =>
      refine ⟨trivial, fun other unlike => ?_⟩
      cases other with
      | signal => exact installable_signal_iff rfl
      | panic => exact Iff.rfl
      | user => exact absurd rfl unlike

/-- Each monitor comes to what it would come to alone, by induction on those left. -/
theorem setEach_selects (host : Host) (requested : Selection) (process : Process)
    {monitors : List Monitor} (distinct : monitors.Nodup)
    : (setEach host requested monitors).Ensures (fun _ => True)
        (fun _ after =>
          (∀ monitor ∈ monitors,
            after.enabled.contains monitor = true
            ↔ requested.contains monitor = true ∧ Available host process monitor)
          ∧ ∀ monitor ∉ monitors,
              after.enabled.contains monitor = process.enabled.contains monitor)
        process := by
  induction monitors generalizing process with
  | nil => exact ⟨nofun, fun _ _ => rfl⟩
  | cons first rest ih =>
      obtain ⟨fresh, distinct⟩ := List.nodup_cons.mp distinct
      have onward {result : Except Failure Unit} {found : Process}
          (switched : Switched host process (requested.contains first) first result found)
          (keeps
            : ∀ other ≠ first, Installable host found other ↔ Installable host process other)
          : (setEach host requested rest).Ensures (fun _ => True)
              (fun _ after =>
                (∀ monitor ∈ first :: rest,
                  after.enabled.contains monitor = true
                  ↔ requested.contains monitor = true ∧ Available host process monitor)
                ∧ ∀ monitor ∉ first :: rest,
                    after.enabled.contains monitor = process.enabled.contains monitor)
              found := by
        refine (ih found distinct).mono (fun _ _ => trivial) ?_
        rintro _ after ⟨inside, outside⟩
        constructor
        · intro monitor member
          rcases List.mem_cons.mp member with rfl | later
          · rw [outside monitor fresh, switched.own]
          · have unlike : monitor ≠ first := fun same => fresh (same ▸ later)
            rw [inside monitor later, Available, switched.others monitor unlike,
              keeps monitor unlike]
            rfl
        · intro monitor outer
          obtain ⟨unlike, later⟩ := not_or.mp fun among => outer (List.mem_cons.mpr among)
          rw [outside monitor later, switched.others monitor unlike]
      rw [setEach, ensures_bind]
      refine ((setEnabled_switches host process _ first).and
        (setEnabled_keeps_installable host process _ first)).mono (fun _ _ => trivial) ?_
      rintro (failure | _) found ⟨switched, keeps⟩
      · refine ⟨trivial, onward ⟨switched.answered, switched.own, switched.others⟩
          fun other unlike => ?_⟩
        exact (installable_record _ other).trans (keeps other unlike)
      · exact onward switched keeps

-----------------------------------------------------------------------------------------
-- The same selection again
-----------------------------------------------------------------------------------------

/-- A monitor that is as requested is left alone. -/
theorem setEnabled_settled (host : Host) (process : Process) (monitor : Monitor)
    : (setEnabled host (process.enabled.contains monitor) monitor).run process
      = (some (.ok ()), process) := by
  cases monitor with
  | signal =>
      have same := process.enabled.put_contains .signal
      simp [setEnabled, setSignals, swap, run_bind, same]
  | panic => simp [setEnabled, setPanics, run_bind, Selection.contains]
  | user =>
      have same := process.enabled.put_contains .user
      simp [setEnabled, swap, run_bind, same]

/-- Switching to what is on already changes nothing, by induction on the monitors left. -/
theorem setEach_settled (host : Host) (process : Process) (monitors : List Monitor)
    : (setEach host process.enabled monitors).run process = (some (), process) := by
  induction monitors with
  | nil => rfl
  | cons monitor rest ih => simp [setEach, run_bind, setEnabled_settled, ih]

-----------------------------------------------------------------------------------------
-- All monitors
-----------------------------------------------------------------------------------------

/-- Switching to a selection ends. -/
theorem ends_setActive (host : Host) (requested : Selection) : (setActive host requested).Ends :=
  .bind (ends_setEach host requested _) fun _ =>
    .bind (.exchange _ _) fun _ => .bind (.modify _) fun _ => .pure _

/-- What is answered is what is on. Each monitor that was requested is on if it was on before or
can be installed, which is to say if it can be turned on by itself, and no other one is on. To
request that once more does nothing but to say it once more.
-/
theorem setActive_selects_installable (host : Host) (process : Process) (requested : Selection)
    : ∃ after,
        (setActive host requested).run process = (some after.enabled, after)
        ∧ (∀ monitor,
            after.enabled.contains monitor = true
            ↔ requested.contains monitor = true
              ∧ (process.enabled.contains monitor = true ∨ Installable host process monitor))
        ∧ (∀ monitor, ∃ result alone,
            (setEnabled host true monitor).run process = (some result, alone)
            ∧ (result = .ok ()
              ↔ process.enabled.contains monitor = true ∨ Installable host process monitor))
        ∧ ∀ again : Host,
            (setActive again after.enabled).run after
            = (some after.enabled,
                after.record (.diagnosed
                  ⟨.debug, .monitors, "Active monitors: " ++ after.enabled.text⟩)) := by
  obtain ⟨_, settled, ends⟩ := ends_setEach host requested Monitor.all process
  have selects := (setEach_selects host requested process (by decide)).run_eq ends
  let line : Log.Notice := ⟨.debug, .monitors, "Active monitors: " ++ settled.enabled.text⟩
  refine ⟨settled.record (.diagnosed line), ?_, fun monitor => ?_, fun monitor => ?_,
    fun again => ?_⟩
  · rw [setActive, run_bind, ends]
    rfl
  · exact selects.1 monitor (by cases monitor <;> decide)
  · obtain ⟨result, alone, ends⟩ := ends_setEnabled host true monitor process
    exact ⟨result, alone, ends,
      ((setEnabled_switches host process true monitor).run_eq ends).answered rfl⟩
  · rw [setActive, run_bind, setEach_settled]
    rfl

end Activation

end CrashCapture
