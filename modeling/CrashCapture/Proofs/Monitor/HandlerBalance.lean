import CrashCapture.Proofs.Monitor.Calls
import CrashCapture.Proofs.Monitor.HandlerAccount
import CrashCapture.Proofs.Monitor.Switching

/-! The flag of the signal monitor and what is installed for signals agree whenever no call is
being answered: all handlers are in place while the monitor is on, and everything is as it was
before while it is off. Calls that are refused halfway leave no trace.
-/

namespace CrashCapture.Handlers

open Steps

variable {host : Host} {originals : FatalSignal → Disposition} {process : Process}
  {caught kept held : List FatalSignal} {number : Nat}

/-- At rest, handlers are installed for all fatal signals while the signal monitor is on, and
for none while it is off.
-/
def Accounted (originals : FatalSignal → Disposition) (process : Process) : Prop :=
  Holding originals (if process.enabled.signal then FatalSignal.all else []) process

/-- An account that is settled changes no disposition but of the signals taken. -/
theorem Accounted.within (accounted : Accounted originals process)
    : Within originals FatalSignal.all process :=
  Midway.within accounted fun signal _ => signal.mem_all

/-- While the monitor is on and all signals are held, the account is settled. -/
theorem Accounted.of_on (on : process.enabled.signal = true)
    (full : Holding originals FatalSignal.all process)
    : Accounted originals process := by
  rw [Accounted, if_pos on]
  exact full

/-- While the monitor is off and none is held, the account is settled. -/
theorem Accounted.of_off (off : process.enabled.signal = false)
    (empty : Holding originals [] process)
    : Accounted originals process := by
  rw [Accounted, if_neg (Bool.eq_false_iff.mp off)]
  exact empty

/-- A flag says nothing about what is installed. -/
theorem Midway.switched (here : Midway originals caught kept number process)
    (enabled : Selection)
    : Midway originals caught kept number { process with enabled := enabled } :=
  ⟨here.dispositions, here.slots, here.counted⟩

/-- The account is an invariant at rest: it is seen from the flag and what is installed. -/
theorem accounted_upheld : Upheld (Within originals FatalSignal.all) (Accounted originals) where
  implied _ accounted := accounted.within
  decided {before after} same accounted := by
    have flag : after.enabled.signal = before.enabled.signal :=
      congrArg (·.1.enabled.signal) same
    rw [Accounted, flag]
    exact Midway.of_core same accounted
  handling _ accounted := ⟨accounted.dispositions, accounted.slots, accounted.counted⟩
  crashed _ accounted := ⟨accounted.dispositions, accounted.slots, accounted.counted⟩
  cleared monitor other process accounted := by
    cases monitor with
    | signal => exact absurd rfl other
    | panic => exact Midway.switched accounted _
    | user => exact Midway.switched accounted _

/-- Removing the handlers of settled accounts leaves none, and no flag changes on the way. -/
theorem uninstallSignals_ensures (restores : ∀ signal, host.kernel.restore signal = none)
    {rest : List FatalSignal} (split : held ++ rest = FatalSignal.all)
    (here : Holding originals held process)
    : (Activation.uninstallSignals host).Ensures (Within originals FatalSignal.all)
        (fun _ after => Holding originals [] after ∧ after.watch = process.watch)
        process := by
  have inside (held : List FatalSignal) : held ⊆ FatalSignal.all := fun signal _ => signal.mem_all
  have removed
      : (Activation.uninstallSignals host).Ensures (Within originals FatalSignal.all)
          (fun _ after => Holding originals [] after) process := by
    rw [Activation.uninstallSignals, ensures_bind]
    refine (restore_ensures (fun signal _ => restores signal) split (inside held) here).mono
      (fun _ within => within) fun _ after empty => ?_
    exact ((AltStack.hidden_core.release host).leaves after).mono
      (fun _ same => (empty.of_core same).within (inside []))
      fun _ _ same => empty.of_core same
  exact (removed.and (Activation.unwatched_uninstallSignals host process)).mono
    (fun _ both => both.1) fun _ _ both => both

/-- Whatever the account was, removing the handlers and clearing the flag settles it. -/
theorem Accounted.cleared (restores : ∀ signal, host.kernel.restore signal = none)
    (accounted : Accounted originals process)
    : (Activation.uninstallSignals host).Ensures (Within originals FatalSignal.all)
        (fun _ after => Accounted originals after)
        { process with enabled := process.enabled.put false .signal } := by
  have settled {held rest : List FatalSignal} (split : held ++ rest = FatalSignal.all)
      (here : Holding originals held process)
      : (Activation.uninstallSignals host).Ensures (Within originals FatalSignal.all)
          (fun _ after => Accounted originals after)
          { process with enabled := process.enabled.put false .signal } :=
    (uninstallSignals_ensures restores split (here.switched _)).mono
      (fun _ within => within)
      fun _ _ ⟨empty, same⟩ => .of_off (congrArg (·.enabled.signal) same) empty
  unfold Accounted at accounted
  split at accounted
  · exact settled (List.append_nil _) accounted
  · exact settled (List.nil_append _) accounted

/-- Declining a signal settles the account again, where restoring is not refused. -/
theorem decline_maintains (restores : ∀ signal, host.kernel.restore signal = none)
    : (Trap.decline host).Maintains (Within originals FatalSignal.all)
        (Accounted originals) := by
  intro process accounted
  rw [Trap.decline, ensures_bind, Activation.ensures_swap]
  refine ⟨(Midway.switched accounted _).within fun signal _ => signal.mem_all, ?_⟩
  refine Maintains.ensures_bind (accounted.cleared restores) fun _ => ?_
  exact accounted_upheld.aside (.modify fun _ => rfl)

/-- Turning the monitor off settles the account again, where restoring is not refused. -/
theorem setSignals_off_maintains (restores : ∀ signal, host.kernel.restore signal = none)
    : (Activation.setSignals host false).Maintains (Within originals FatalSignal.all)
        (Accounted originals) := by
  intro process accounted
  have switched := Midway.switched accounted (process.enabled.put false .signal)
  rw [Activation.setSignals, ensures_bind, Activation.ensures_swap]
  refine ⟨switched.within fun signal _ => signal.mem_all, ?_⟩
  cases was : process.enabled.signal with
  | false =>
      have empty : Holding originals [] process := by
        simpa [Accounted, was] using accounted
      simpa [Selection.contains, was] using
        (Accounted.of_off rfl (empty.switched (process.enabled.put false .signal)))
  | true =>
      simp only [Selection.contains, was]
      exact Maintains.ensures_bind (accounted.cleared restores) fun _ => .pure _

/-- The signals that are taken once an attempt has ended. -/
def heldBy : Except Failure Unit → List FatalSignal
  | .ok () => FatalSignal.all
  | .error _ => []

/-- Installing ends with all signals held, or with none when one was refused. -/
theorem install_ensures (restores : ∀ signal, host.kernel.restore signal = none)
    (here : Holding originals [] process)
    : (install host).Ensures (Within originals FatalSignal.all)
        (fun result after => Holding originals (heldBy result) after) process := by
  refine (installEach_ensures (fun signal _ => restores signal) (List.nil_append _) here).mono
    ?_ ?_
  · intro after within
    exact ⟨within.saved, fun signal outside => absurd signal.mem_all outside⟩
  · intro result after settled
    unfold Settled at settled
    split at settled
    · obtain ⟨rfl, full⟩ := settled
      exact full
    · obtain ⟨errno, _, rfl, empty⟩ := settled
      exact empty

/-- What decides nothing changes nothing of what is held. -/
theorem holding_aside {α : Type} {action : Action α} (leaves : action.Aside)
    : action.Maintains (Within originals FatalSignal.all) (Holding originals held) :=
  .of_leaves (fun _ here => here.within fun signal _ => signal.mem_all)
    (fun same here => here.of_core same) leaves

/-- Installing stack and handlers ends with all signals held, or with none. -/
theorem installHandlers_ensures (restores : ∀ signal, host.kernel.restore signal = none)
    (here : Holding originals [] process)
    : (Activation.installHandlers host).Ensures (Within originals FatalSignal.all)
        (fun result after => Holding originals (heldBy result) after) process := by
  rw [Activation.installHandlers, ensures_bind]
  refine (holding_aside (AltStack.hidden_core.install host).leaves process here).mono
    (fun _ within => within) fun provided ready empty => ?_
  cases provided with
  | error failure => exact empty
  | ok _ =>
      rw [ensures_bind]
      refine (install_ensures restores empty).mono (fun _ within => within)
        fun result after held => ?_
      cases result with
      | ok _ => exact held
      | error failure =>
          rw [ensures_bind]
          exact (holding_aside (AltStack.hidden_core.release host).leaves after held).mono
            (fun _ within => within) fun _ _ empty => empty

/-- The stack and the identifier that installing needs are no part of the account. -/
theorem installSignals_ensures (restores : ∀ signal, host.kernel.restore signal = none)
    (here : Holding originals [] process)
    : (Activation.installSignals host).Ensures (Within originals FatalSignal.all)
        (fun result after =>
          Holding originals (heldBy result) after ∧ after.watch = process.watch)
        process := by
  have installed
      : (Activation.installSignals host).Ensures (Within originals FatalSignal.all)
          (fun result after => Holding originals (heldBy result) after) process := by
    rw [Activation.installSignals, ensures_bind]
    refine (holding_aside (Host.hidden_core.issue host).leaves process here).mono
      (fun _ within => within) fun id issued here => ?_
    have half : Holding originals [] { issued with signalId.high := id.high } :=
      ⟨here.dispositions, here.slots, here.counted⟩
    have named : Holding originals [] { issued with signalId := id } :=
      ⟨here.dispositions, here.slots, here.counted⟩
    rw [ensures_bind, Activation.storeId, ensures_bind, ensures_modify, ensures_modify]
    refine ⟨half.within fun signal _ => signal.mem_all,
      named.within fun signal _ => signal.mem_all, ?_⟩
    rw [ensures_bind]
    refine (installHandlers_ensures restores named).mono (fun _ within => within)
      fun result after held => ?_
    cases result with
    | error failure => exact held
    | ok _ =>
        rw [ensures_bind]
        exact (holding_aside (Action.hidden_core.diagnose _ _ _).leaves after held).mono
          (fun _ within => within) fun _ _ full => full
  exact (installed.and (Activation.unwatched_installSignals host process)).mono
    (fun _ both => both.1) fun _ _ both => both

/-- The flag is set before handlers are installed, and cleared again when that fails. -/
theorem setSignals_on_maintains (restores : ∀ signal, host.kernel.restore signal = none)
    : (Activation.setSignals host true).Maintains (Within originals FatalSignal.all)
        (Accounted originals) := by
  intro process accounted
  have switched := Midway.switched accounted (process.enabled.put true .signal)
  rw [Activation.setSignals, ensures_bind, Activation.ensures_swap]
  refine ⟨switched.within fun signal _ => signal.mem_all, ?_⟩
  cases was : process.enabled.signal with
  | true =>
      have full : Holding originals FatalSignal.all process := by
        simpa [Accounted, was] using accounted
      simpa [Selection.contains, was] using
        (Accounted.of_on rfl (full.switched (process.enabled.put true .signal)))
  | false =>
      have empty : Holding originals [] process := by
        simpa [Accounted, was] using accounted
      simp only [Selection.contains, was]
      refine ensures_bind.mpr ?_
      refine (installSignals_ensures restores (empty.switched _)).mono
        (fun _ within => within) fun result after reached => ?_
      obtain ⟨held, same⟩ := reached
      cases result with
      | ok _ => exact .of_on (congrArg (·.enabled.signal) same) held
      | error failure =>
          have off := Midway.switched held (after.enabled.put false .signal)
          exact ⟨off.within fun signal _ => signal.mem_all, .of_off rfl off⟩

-----------------------------------------------------------------------------------------
-- A refusal halfway
-----------------------------------------------------------------------------------------

/-- Installing comes to an end, by induction on the places left. -/
theorem ends_installEach (host : Host) (places : List (FatalSignal × Fin savedCapacity))
    : (installEach host places).Ends := by
  induction places with
  | nil => exact .pure _
  | cons place rest ih =>
      refine .bind (ends_setDisposition _ _ _) fun result => ?_
      cases result with
      | ok previous => exact .bind (.modify _) fun _ => .bind (.modify _) fun _ => ih
      | error errno =>
          exact .bind (.modify _) fun _ => .bind (ends_restore host) fun _ => .pure _

/-- Signals that are not refused are taken one after the other, by induction on them. -/
theorem installEach_reaches {now later : List FatalSignal}
    (split : held ++ (now ++ later) = FatalSignal.all)
    (accepted : ∀ signal ∈ now, host.kernel.install signal = none)
    (here : Holding originals held process)
    : ∃ visited ∈ (installEach host
          ((now ++ later).map fun signal => (signal, signal.slot))).states process,
        Holding originals (held ++ now) visited := by
  induction now generalizing held process with
  | nil =>
      rw [List.append_nil]
      exact ⟨process, mem_states_self _ _, here⟩
  | cons signal now ih =>
      obtain ⟨fresh, place⟩ := slot_of_split split
      have counted := here.takenOver fresh place
      have onward : (held ++ [signal]) ++ (now ++ later) = FatalSignal.all := by
        rw [List.append_assoc]
        exact split
      obtain ⟨visited, member, reached⟩ :=
        ih onward (fun other member => accepted other (List.mem_cons_of_mem _ member)) counted
      refine ⟨visited, ?_, by simpa using reached⟩
      have answer := accepted signal List.mem_cons_self
      rw [List.cons_append, List.map_cons, installEach, setDisposition, answer]
      exact .tail _ (.tail _ (.tail _ member))

/-- A refusal leaves untouched what comes after it and undoes exactly what came before. -/
theorem install_refused (restores : ∀ signal, host.kernel.restore signal = none)
    {before later : List FatalSignal} {refused : FatalSignal} {errno : Errno}
    (split : before ++ refused :: later = FatalSignal.all)
    (accepted : ∀ signal ∈ before, host.kernel.install signal = none)
    (refuses : host.kernel.install refused = some errno)
    (here : Holding originals [] process)
    : (∃ visited ∈ (install host).states process, Holding originals before visited)
      ∧ (∀ visited ∈ (install host).states process, Within originals before visited)
      ∧ ∃ after,
          (install host).run process
            = (some (.error (.hookInstall refused.name errno.named)), after)
          ∧ Holding originals [] after := by
  have tried : FatalSignal.all.takeWhile (accepts host) = before := by
    rw [← split, List.takeWhile_append_of_pos fun signal member => by
      simp [accepts, accepted signal member]]
    simp [accepts, refuses]
  have first : FatalSignal.all.find? (fun signal => !accepts host signal) = some refused := by
    rw [← split, List.find?_append,
      List.find?_eq_none.mpr fun signal member => by simp [accepts, accepted signal member]]
    simp [accepts, refuses]
  have ensures :=
    installEach_ensures (fun signal _ => restores signal) (List.nil_append FatalSignal.all) here
  rw [List.nil_append, tried] at ensures
  refine ⟨?_, ?_, ?_⟩
  · rw [install_eq, ← split]
    exact installEach_reaches split accepted here
  · intro visited member
    exact ensures.mem_states (here.within (List.nil_subset _)) member
  · obtain ⟨result, after, ends⟩ := ends_installEach host _ process
    have settled := ensures.run_eq ends
    rw [Settled, first] at settled
    obtain ⟨number, same, rfl, empty⟩ := settled
    obtain rfl : errno = number := Option.some.inj (refuses.symm.trans same)
    exact ⟨after, ends, empty⟩

-----------------------------------------------------------------------------------------
-- Whole runs
-----------------------------------------------------------------------------------------

/-- Nobody but the monitor changes what signals do: the kernel puts back what it is asked to,
and the guard handler, which gives a signal its default after other faults, only gets faults in
the guarded page.
-/
structure Undisturbed (originals : FatalSignal → Disposition) (host : Host) (call : Call)
    : Prop where
  restores : ∀ signal, host.kernel.restore signal = none
  guarded : ∀ sent ∈ call.sends, originals sent.1 = .guard → host.isGuarded sent.2 = true

/-- A call that is not disturbed keeps the account, whatever the program's code keeps. -/
theorem Undisturbed.maintains {call : Call} (undisturbed : Undisturbed originals host call)
    (onEvent
      : ∀ event,
          (host.onEvent event).Maintains (Within originals FatalSignal.all)
            (Accounted originals))
    (onSignal
      : ∀ number signal,
          (host.onSignal number signal).Maintains (Within originals FatalSignal.all)
            (Accounted originals))
    (onPanic
      : ∀ text,
          (host.onPanic text).Maintains (Within originals FatalSignal.all)
            (Accounted originals))
    : (call.perform host).Maintains (Within originals FatalSignal.all)
        (Accounted originals) := by
  have restores := undisturbed.restores
  refine Call.maintains accounted_upheld
    (.of_onEvent (accounted_upheld.carried (setSignals_off_maintains restores))
      (decline_maintains restores) onEvent onSignal onPanic) ?_ (fun _ => ?_) ?_
  · intro on process accounted
    exact ⟨accounted.dispositions, accounted.slots, accounted.counted⟩
  · refine ⟨setSignals_on_maintains restores, fun monitor other process accounted => ?_⟩
    cases monitor with
    | signal => exact absurd rfl other
    | panic => exact Midway.switched accounted _
    | user => exact Midway.switched accounted _
  · intro sent member process accounted found
    -- Only an original disposition can be the guard handler.
    have original : originals sent.1 = .guard := by
      rw [accounted.dispositions] at found
      exact original_of_taken originals (by decide) found
    exact .inl (undisturbed.guarded sent member original)

/-- A composed run keeps the account, call by call. -/
theorem run_maintains {α : Type} {run : Action α}
    (composed
      : Composed (fun process => (process.enabled.signal, process.installed))
          (Undisturbed originals) run)
    : run.Maintains (Within originals FatalSignal.all) (Accounted originals) := by
  refine composed.maintains (fun _ accounted => accounted.within) ?_
    fun host call undisturbed => undisturbed.maintains
  intro before after same accounted
  have flag : after.enabled.signal = before.enabled.signal := congrArg Prod.fst same
  have installed : after.installed = before.installed := congrArg Prod.snd same
  rw [Accounted, flag]
  have table := congrArg Installed.table installed
  exact ⟨(congrArg Installed.dispositions installed).trans accounted.dispositions,
    (congrArg HandlerTable.slots table).trans accounted.slots,
    (congrArg HandlerTable.installed table).trans accounted.counted⟩

/-- A run starts with the monitor off, an empty table and no disposition that is the monitor's
own. Then no state of the run has anything else saved than what was there in the beginning,
and whenever the run has ended, all nine signals are taken and accounted for if the monitor is
on, and everything is as in the beginning if it is off. From there a refusal at any signal
undoes exactly the signals before it.
-/
theorem run_balances {start : Process} (off : start.enabled.signal = false)
    (empty : start.table = {}) (foreign : ∀ signal, start.dispositions signal ≠ .capture)
    {α : Type} {run : Action α}
    (composed
      : Composed (fun process => (process.enabled.signal, process.installed))
          (Undisturbed start.dispositions) run)
    : (∀ visited ∈ run.states start,
        ∀ (index : Fin savedCapacity) (signal : FatalSignal) (previous : Disposition),
          visited.table.slots.get index = some (signal, previous)
            → previous = start.dispositions signal ∧ previous ≠ .capture)
      ∧ ∀ result after,
          run.run start = (some result, after)
          → (after.enabled.signal = true
              → (∀ signal, after.dispositions signal = .capture)
                ∧ after.table.slots.toList
                  = (FatalSignal.all.map fun signal => some (signal, start.dispositions signal))
                    ++ List.replicate (savedCapacity - FatalSignal.all.length) none
                ∧ after.table.installed = FatalSignal.all.length)
            ∧ (after.enabled.signal = false
              → after.dispositions = start.dispositions
                ∧ after.table = {}
                ∧ ∀ (host : Host) (before later : List FatalSignal) (refused : FatalSignal)
                    (errno : Errno),
                    (∀ signal, host.kernel.restore signal = none)
                    → before ++ refused :: later = FatalSignal.all
                    → (∀ signal ∈ before, host.kernel.install signal = none)
                    → host.kernel.install refused = some errno
                    → (∃ visited ∈ (install host).states after,
                        visited.dispositions = taken start.dispositions before
                        ∧ visited.table.installed = before.length)
                      ∧ (∀ visited ∈ (install host).states after, ∀ signal ∉ before,
                          visited.dispositions signal = start.dispositions signal)
                      ∧ ∃ final,
                          (install host).run after
                            = (some (.error (.hookInstall refused.name errno.named)), final)
                          ∧ final.dispositions = start.dispositions
                          ∧ final.table = {}) := by
  have none_taken (originals : FatalSignal → Disposition) : taken originals [] = originals := rfl
  have begins : Accounted start.dispositions start := by
    refine .of_off off ⟨rfl, ?_, ?_⟩
    · rw [empty, saved_nil]
    · rw [empty]
      rfl
  have ensures := run_maintains composed start begins
  refine ⟨fun visited member index signal previous found => ?_, fun result after ends => ⟨?_, ?_⟩⟩
  · have original := (ensures.mem_states begins.within member).saved index signal previous found
    exact ⟨original, original ▸ foreign signal⟩
  · intro on
    have full : Holding start.dispositions FatalSignal.all after := by
      have accounted := ensures.run_eq ends
      rwa [Accounted, if_pos on] at accounted
    refine ⟨fun signal => ?_, ?_, full.counted⟩
    · rw [full.dispositions, taken_all]
    · rw [full.slots]
      rfl
  · intro off
    have none : Holding start.dispositions [] after := by
      have accounted := ensures.run_eq ends
      rwa [Accounted, if_neg (Bool.eq_false_iff.mp off)] at accounted
    refine ⟨none.dispositions, none.table_eq, ?_⟩
    intro host before later refused errno restores split accepted refuses
    obtain ⟨⟨visited, member, reached⟩, within, final, fails, undone⟩ :=
      install_refused restores split accepted refuses none
    exact ⟨⟨visited, member, reached.dispositions, reached.counted⟩,
      fun visited member => (within visited member).beyond,
      final, fails, undone.dispositions, undone.table_eq⟩

/-- A trapped signal that was ignored before leaves the monitor off and nothing of it behind.
-/
theorem run_balances_of_survived_signal
    : Process.fresh.enabled.signal = false ∧ Process.fresh.table = {}
      ∧ (∀ signal, Process.fresh.dispositions signal ≠ .capture)
      ∧ Composed (fun process => (process.enabled.signal, process.installed))
          (Undisturbed Process.fresh.dispositions) survivedSignal
      ∧ ∃ after,
          survivedSignal.run .fresh = (some (), after)
          ∧ after.dispositions = Process.fresh.dispositions ∧ after.table = {} := by
  have idle : Process.fresh.enabled.signal = false := rfl
  have empty : Process.fresh.table = {} := rfl
  have foreign : ∀ signal, Process.fresh.dispositions signal ≠ .capture := by
    intro signal
    cases signal <;> decide
  have undisturbed {call : Call} (spared : ∀ sent ∈ call.sends, sent.1 = .pipe ∨ sent.1 = .abort)
      : Undisturbed Process.fresh.dispositions .plain call := by
    refine ⟨fun _ => rfl, fun sent member guarded => ?_⟩
    rcases spared sent member with same | same <;> rw [same] at guarded <;> cases guarded
  have composed
      : Composed (fun process => (process.enabled.signal, process.installed))
          (Undisturbed Process.fresh.dispositions) survivedSignal :=
    .bind (.of_plain (undisturbed (by simp [Call.sends])) fun _ _ => rfl) fun _ =>
      .of_plain (undisturbed (by simp [Call.sends])) fun _ _ => rfl
  have ends : (survivedSignal.run .fresh).1 = some () := by decide +kernel
  have off : (survivedSignal.run .fresh).2.enabled.signal = false := by decide +kernel
  have ended : survivedSignal.run .fresh = (some (), (survivedSignal.run .fresh).2) :=
    Prod.ext ends rfl
  obtain ⟨dispositions, table, _⟩ :=
    ((run_balances idle empty foreign composed).2 () _ ended).2 off
  exact ⟨idle, empty, foreign, composed, _, ended, dispositions, table⟩

end CrashCapture.Handlers
