import CrashCapture.Proofs.Monitor.Deliveries
import CrashCapture.Proofs.Monitor.HandlerBalance

/-! Where a signal goes that its handler raises again. The handler puts back what the slots in use
hold, and nothing else: a signal that was trapped between any two steps goes to what was there
before the handler if a slot in use has that, and back to the handler otherwise, for ever.
-/

namespace CrashCapture

open Steps

variable {host : Host} {found process : Process} {signal : FatalSignal} {cause : SignalCause}

-----------------------------------------------------------------------------------------
-- What the slots in use hand back
-----------------------------------------------------------------------------------------

namespace Handlers

abbrev Slots : Type := Vector (Option (FatalSignal × Disposition)) savedCapacity

/-- What signals do once the disposition that a slot holds, if any, is put back. -/
def putBackSlot (dispositions : FatalSignal → Disposition)
    (slot : Option (FatalSignal × Disposition))
    : FatalSignal → Disposition :=
  slot.elim dispositions fun kept signal =>
    if signal = kept.1 then kept.2 else dispositions signal

/-- What signals do once the dispositions in some slots are put back, one after the other. -/
def putBack (slots : Slots) (indices : List (Fin savedCapacity))
    (dispositions : FatalSignal → Disposition)
    : FatalSignal → Disposition :=
  (indices.map slots.get).foldl putBackSlot dispositions

/-- A slot holds nothing for a signal, which is left alone, or is what the signal gets. -/
theorem putBackSlot_cases (dispositions : FatalSignal → Disposition)
    (slot : Option (FatalSignal × Disposition)) (signal : FatalSignal)
    : (putBackSlot dispositions slot signal = dispositions signal
        ∧ ∀ previous, slot ≠ some (signal, previous))
      ∨ slot = some (signal, putBackSlot dispositions slot signal) := by
  cases slot with
  | none => exact .inl ⟨rfl, by simp⟩
  | some kept =>
      obtain ⟨other, previous⟩ := kept
      by_cases same : signal = other
      · right
        simp [putBackSlot, same]
      · left
        refine ⟨by simp [putBackSlot, same], fun saved => ?_⟩
        simp [Ne.symm same]

/-- A signal is left alone by slots that hold nothing for it, and otherwise gets what one of them
holds, by induction on the slots.
-/
theorem putBack_cases (slots : Slots) (indices : List (Fin savedCapacity))
    (dispositions : FatalSignal → Disposition) (signal : FatalSignal)
    : (putBack slots indices dispositions signal = dispositions signal
        ∧ ∀ index ∈ indices, ∀ previous, slots.get index ≠ some (signal, previous))
      ∨ ∃ index ∈ indices,
          slots.get index = some (signal, putBack slots indices dispositions signal) := by
  induction indices generalizing dispositions with
  | nil => exact .inl ⟨rfl, by simp⟩
  | cons first rest ih =>
      rcases ih (putBackSlot dispositions (slots.get first)) with
        ⟨same, without⟩ | ⟨index, among, holds⟩
      · rcases putBackSlot_cases dispositions (slots.get first) signal with
          ⟨alone, other⟩ | own
        · refine .inl ⟨same.trans alone, fun index among => ?_⟩
          rcases List.mem_cons.mp among with rfl | later
          · exact other
          · exact without index later
        · exact .inr ⟨first, List.mem_cons_self, own.trans (by rw [← same]; rfl)⟩
      · exact .inr ⟨index, List.mem_cons_of_mem _ among, holds⟩

/-- A slot that is not put back may be emptied. -/
theorem putBack_emptied {index : Fin savedCapacity} (slots : Slots)
    {indices : List (Fin savedCapacity)} (elsewhere : index ∉ indices)
    (dispositions : FatalSignal → Disposition)
    : putBack (slots.set index none index.isLt) indices dispositions
      = putBack slots indices dispositions := by
  have same : indices.map (slots.set index none index.isLt).get = indices.map slots.get := by
    refine List.map_congr_left fun other among => ?_
    have apart : index.val ≠ other.val := fun same => elsewhere (Fin.ext same ▸ among)
    exact Vector.getElem_set_ne index.isLt other.isLt apart
  rw [putBack, putBack, same]

/-- Where nothing refuses, restoring slots puts back what they hold and empties them, by induction
on the slots.
-/
theorem restoreSlots_putsBack (restores : ∀ signal, host.kernel.restore signal = none)
    {indices : List (Fin savedCapacity)} (distinct : indices.Nodup) (process : Process)
    : (restoreSlots host indices).Ensures (fun _ => True)
        (fun _ after =>
          after.dispositions = putBack process.table.slots indices process.dispositions
          ∧ after.table.installed = process.table.installed)
        process := by
  induction indices generalizing process with
  | nil => exact ⟨rfl, rfl⟩
  | cons index rest ih =>
      obtain ⟨elsewhere, others⟩ := List.nodup_cons.mp distinct
      rw [restoreSlots, ensures_bind, takeSlot, ensures_exchange]
      refine ⟨trivial, ?_⟩
      have onward {found after : Process}
          (dispositions
            : found.dispositions
              = putBackSlot process.dispositions (process.table.slots.get index))
          (table
            : found.table = { process.table with
                slots := process.table.slots.set index none index.isLt })
          (back
            : after.dispositions = putBack found.table.slots rest found.dispositions
              ∧ after.table.installed = found.table.installed)
          : after.dispositions
              = putBack process.table.slots (index :: rest) process.dispositions
            ∧ after.table.installed = process.table.installed := by
        rw [dispositions, table, putBack_emptied _ elsewhere] at back
        exact back
      cases held : process.table.slots[index] with
      | none =>
          have slot : process.table.slots.get index = none := held
          refine (ih others _).mono (fun _ _ => trivial) fun _ after back => ?_
          exact onward (by rw [slot]; rfl) rfl back
      | some kept =>
          have slot : process.table.slots.get index = some kept := held
          simp only [setDisposition, restores, ensures_bind, ensures_exchange, true_and]
          refine (ih others _).mono (fun _ _ => trivial) fun _ after back => ?_
          exact onward (by rw [slot]; rfl) rfl back

end Handlers

open Handlers

/-- What signals do once everything that the slots in use hold is put back. -/
def Process.handedBack (process : Process) : FatalSignal → Disposition :=
  putBack process.table.slots ((List.finRange savedCapacity).take process.table.installed)
    process.dispositions

/-- A slot in use holds what a signal did before. -/
def Process.Recorded (process : Process) (signal : FatalSignal) : Prop :=
  ∃ index : Fin savedCapacity,
    index.val < process.table.installed
    ∧ ∃ previous, process.table.slots.get index = some (signal, previous)

/-- The slots that are counted are the first ones. -/
theorem mem_slots_in_use {index : Fin savedCapacity} {installed : Nat}
    : index ∈ (List.finRange savedCapacity).take installed ↔ index.val < installed := by
  rw [List.mem_take_iff_getElem]
  constructor
  · rintro ⟨place, few, rfl⟩
    simpa using (Nat.lt_min.mp few).1
  · intro few
    exact ⟨index.val, by simpa using Nat.lt_min.mpr ⟨few, index.isLt⟩, by simp⟩

/-- What is handed back is seen from what is installed. -/
theorem Process.handedBack_congr {before after : Process}
    (same : after.installed = before.installed)
    : after.handedBack = before.handedBack := by
  have dispositions : after.dispositions = before.dispositions :=
    congrArg Installed.dispositions same
  have table : after.table = before.table := congrArg Installed.table same
  rw [Process.handedBack, Process.handedBack, dispositions, table]

/-- What is not recorded is left as it is, and what is gets back what a slot holds. -/
theorem Process.handedBack_cases (process : Process) (signal : FatalSignal)
    : (¬ process.Recorded signal
        ∧ process.handedBack signal = process.dispositions signal)
      ∨ process.Recorded signal
        ∧ ∃ index, process.table.slots.get index = some (signal, process.handedBack signal) := by
  rcases putBack_cases process.table.slots _ process.dispositions signal with
    ⟨same, without⟩ | ⟨index, among, holds⟩
  · refine .inl ⟨?_, same⟩
    rintro ⟨index, used, previous, saved⟩
    exact without index (mem_slots_in_use.mpr used) previous saved
  · exact .inr ⟨⟨index, mem_slots_in_use.mp among, _, holds⟩, index, holds⟩

-----------------------------------------------------------------------------------------
-- Between the trap and the raise
-----------------------------------------------------------------------------------------

/-- All that the slots in use held in a certain state is put back, and no slot is in use. -/
structure PutBack (found now : Process) : Prop where
  dispositions : now.dispositions = found.handedBack
  counted : now.table.installed = 0

/-- The signal monitor was turned off, and everything is put back. -/
structure Done (found now : Process) : Prop extends PutBack found now where
  off : now.enabled.signal = false

/-- Either the signal monitor is still on and nothing installed has changed, or all is done. -/
def Underway (found now : Process) : Prop :=
  now.enabled.signal = true ∧ now.installed = found.installed ∨ Done found now

/-- Whether all was put back is seen from what is installed. -/
theorem PutBack.of_installed {before after : Process} (same : after.installed = before.installed)
    (back : PutBack found before)
    : PutBack found after := by
  have dispositions : after.dispositions = before.dispositions :=
    congrArg Installed.dispositions same
  have table : after.table = before.table := congrArg Installed.table same
  exact ⟨dispositions.trans back.dispositions, table ▸ back.counted⟩

/-- What is handed back depends on what was installed alone. -/
theorem PutBack.of_found {start now : Process} (back : PutBack start now)
    (same : start.installed = found.installed)
    : PutBack found now :=
  ⟨back.dispositions.trans (Process.handedBack_congr same), back.counted⟩

/-- Whether it is done is seen from the flag and what is installed. -/
theorem Done.of_switch {before after : Process}
    (same : (after.enabled.signal, after.installed) = (before.enabled.signal, before.installed))
    (done : Done found before)
    : Done found after :=
  ⟨done.toPutBack.of_installed (congrArg Prod.snd same), (congrArg Prod.fst same).trans done.off⟩

/-- Whether it is underway is seen from the flag and what is installed. -/
theorem Underway.of_switch {before after : Process}
    (same : (after.enabled.signal, after.installed) = (before.enabled.signal, before.installed))
    (underway : Underway found before)
    : Underway found after := by
  rcases underway with ⟨on, installed⟩ | done
  · exact .inl ⟨(congrArg Prod.fst same).trans on, (congrArg Prod.snd same).trans installed⟩
  · exact .inr (done.of_switch same)

/-- What the signal monitor's flag and what is installed decide alone is kept by all else. -/
theorem Upheld.of_switch {inv : Process → Prop}
    (about
      : ∀ {before after : Process},
          (after.enabled.signal, after.installed) = (before.enabled.signal, before.installed)
          → inv before → inv after)
    : Upheld (fun _ => True) inv where
  implied _ _ := trivial
  decided same := about (congrArg (fun core => (core.1.enabled.signal, core.2)) same)
  handling _ := about rfl
  crashed _ := about rfl
  cleared monitor other process := by
    cases monitor with
    | signal => exact absurd rfl other
    | panic => exact about rfl
    | user => exact about rfl

/-- What is done stays so at rest. -/
theorem upheld_done : Upheld (fun _ => True) (Done found) := .of_switch Done.of_switch

/-- What is underway stays so at rest. -/
theorem upheld_underway : Upheld (fun _ => True) (Underway found) := .of_switch Underway.of_switch

/-- Removing the handlers puts back what the slots in use hold. -/
theorem uninstallSignals_putsBack (restores : ∀ signal, host.kernel.restore signal = none)
    (process : Process)
    : (Activation.uninstallSignals host).Ensures (fun _ => True)
        (fun _ after => PutBack process after) process := by
  have distinct : ((List.finRange savedCapacity).take process.table.installed).Nodup :=
    (List.nodup_finRange _).sublist (List.take_sublist _ _)
  rw [Activation.uninstallSignals, ensures_bind, Handlers.restore, ensures_bind, takeCount,
    ensures_exchange]
  refine ⟨trivial, (restoreSlots_putsBack restores distinct _).mono (fun _ _ => trivial) ?_⟩
  intro _ restored back
  have putBack : PutBack process restored := ⟨back.1, back.2⟩
  exact ((AltStack.hidden_core.release host).leaves restored).mono (fun _ _ => trivial)
    fun _ _ same => putBack.of_installed (congrArg Prod.snd same)

/-- Whether it was still on or not, turning the signal monitor off has all done. -/
theorem setSignals_false_done (restores : ∀ signal, host.kernel.restore signal = none)
    : (Activation.setSignals host false).Leads (fun _ => True) (Underway found) (Done found) := by
  intro process underway
  rw [Activation.setSignals, ensures_bind, Activation.ensures_swap]
  refine ⟨trivial, ?_⟩
  rcases underway with ⟨on, installed⟩ | done
  · simp only [Selection.contains, on]
    refine ensures_bind.mpr ?_
    refine ((uninstallSignals_putsBack restores _).and
      (Activation.unwatched_uninstallSignals host _)).mono (fun _ _ => trivial) ?_
    intro _ after both
    obtain ⟨back, watch⟩ := both
    exact ⟨.of_found back installed, congrArg (·.enabled.signal) watch⟩
  · simp only [Selection.contains, done.off]
    exact ⟨⟨done.dispositions, done.counted⟩, rfl⟩

/-- Turning all monitors off is done with it, where restoring is not refused. -/
theorem disableAll_done (restores : ∀ signal, host.kernel.restore signal = none)
    : (Activation.disableAll host).Leads (fun _ => True) (Underway found) (Done found) := by
  have off : (Activation.setSignals host false).Maintains (fun _ => True) (Done found) :=
    fun process done => setSignals_false_done restores process (.inr done)
  refine Leads.bind (setSignals_false_done restores) fun result => ?_
  have rest := (upheld_done.carried off).disableEach [.panic, .user]
  cases result with
  | ok _ => exact rest
  | error failure =>
      exact .bind (upheld_done.aside (Action.hidden_core.log _ _ _).leaves) fun _ => rest

/-- A callback that comes to its end, leaves alone what is installed for signals and whether
their monitor is on, and leaves an event as fatal as it was.
-/
structure Host.Discreet (host : Host) : Prop where
  ends : ∀ event, (host.onEvent event).Ends
  leaves
    : ∀ event,
        (host.onEvent event).Leaves fun process => (process.enabled.signal, process.installed)
  fatal
    : ∀ event process,
        (host.onEvent event).Ensures (fun _ => True)
          (fun result _ => result.isFatal = event.isFatal) process

/-- Handling a fatal event ends with the monitors off, and with that it is done. -/
theorem handle_done (restores : ∀ signal, host.kernel.restore signal = none)
    (discreet : host.Discreet) {event : Event} (fatal : event.isFatal = true)
    : (Pipeline.handle host event).Leads (fun _ => True) (Underway found) (Done found) := by
  intro process underway
  have delivered
      : (Pipeline.deliver host (Pipeline.shown process event)).Ensures (fun _ => True)
          (fun result after => result.isFatal = true ∧ Underway found after) process := by
    have shown := (Pipeline.shown_isFatal process event).trans fatal
    rw [Pipeline.deliver, ensures_bind, ensures_ask]
    refine ⟨trivial, ?_⟩
    split
    · refine ((discreet.fatal _ process).and (discreet.leaves _ process)).mono
        (fun _ _ => trivial) ?_
      exact fun result after both => ⟨both.1.trans shown, underway.of_switch both.2⟩
    · rw [ensures_bind]
      exact (upheld_underway.aside (Action.hidden_core.log _ _ _).leaves process underway).mono
        (fun _ _ => trivial) fun _ _ underway => ⟨shown, underway⟩
  refine Pipeline.handle_ensures trivial ?_
  rw [ensures_bind]
  refine delivered.mono (fun _ _ => trivial) fun result after both => ?_
  obtain ⟨isFatal, underway⟩ := both
  dsimp only
  rw [if_pos isFatal, ensures_bind]
  exact disableAll_done restores after underway

namespace Trap

/-- A capture leads to where it is done, as handling its event does. -/
theorem capture_done (restores : ∀ signal, host.kernel.restore signal = none)
    (discreet : host.Discreet) (signal : FatalSignal) (cause : SignalCause)
    : (capture host signal cause).Leads (fun _ => True) (Underway found) (Done found) := by
  have off : (Activation.setSignals host false).Maintains (fun _ => True) (Underway found) :=
    fun process underway =>
      (setSignals_false_done restores process underway).mono (fun _ _ => trivial)
        fun _ _ done => .inr done
  refine .bind (upheld_underway.aside Suspension.hidden_core.begin.leaves) fun suspension => ?_
  refine .bind ((upheld_underway.carried off).notifyFatal true) fun crashedDuring => ?_
  refine .bind (upheld_underway.aside (Action.hidden_core.hear _).leaves) fun context => ?_
  refine .bind (upheld_underway.ask _) fun maxDepth => ?_
  refine .bind (upheld_underway.aside (Trap.loadId_leaves _)) fun id => ?_
  exact .bind (handle_done restores discreet rfl) fun _ =>
    upheld_done.aside (Action.hidden_core.resume suspension).leaves

/-- What the handler does before it raises the signal again. -/
def respond (host : Host) (signal : FatalSignal) (cause : SignalCause) : Action Unit := do
  Action.log .debug .signalMonitor
    ("trapped signal " ++ Digits.decimal signal.number)
  let isOn ← .ask (·.enabled.signal)
  let sigterm ← .ask (·.sigterm)
  if isOn && isWanted signal sigterm then capture host signal cause
  else decline host
  Action.log .debug .signalMonitor
    ("re-raising signal " ++ Digits.decimal signal.number)

/-- In whatever state a signal is trapped, what the slots in use hold then is put back when the
handler comes to raise it again.
-/
theorem respond_putsBack (restores : ∀ signal, host.kernel.restore signal = none)
    (discreet : host.Discreet) (signal : FatalSignal) (cause : SignalCause) (process : Process)
    : (respond host signal cause).Ensures (fun _ => True) (fun _ after => PutBack process after)
        process := by
  have last (text : String) {after : Process} (back : PutBack process after)
      : (Action.log .debug .signalMonitor text).Ensures (fun _ => True)
          (fun _ => PutBack process) after :=
    ((Action.hidden_core.log _ _ _).leaves after).mono (fun _ _ => trivial)
      fun _ _ same => back.of_installed (congrArg Prod.snd same)
  rw [respond, ensures_bind]
  refine ((Action.hidden_core.log _ _ _).leaves process).mono (fun _ _ => trivial)
    fun _ begun same => ?_
  rw [ensures_bind, ensures_ask]
  refine ⟨trivial, ?_⟩
  rw [ensures_bind, ensures_ask]
  refine ⟨trivial, ?_⟩
  have installed : begun.installed = process.installed := congrArg Prod.snd same
  split
  next wanted =>
    have on : begun.enabled.signal = true := (Bool.and_eq_true_iff.mp wanted).1
    rw [ensures_bind]
    exact (capture_done restores discreet signal cause begun (.inl ⟨on, installed⟩)).mono
      (fun _ _ => trivial) fun _ _ done => last _ done.toPutBack
  next =>
    rw [ensures_bind, decline, ensures_bind, Activation.ensures_swap]
    refine ⟨trivial, ensures_bind.mpr ?_⟩
    refine (uninstallSignals_putsBack restores _).mono (fun _ _ => trivial) fun _ after back => ?_
    have settled : PutBack process after := .of_found back installed
    exact ⟨trivial, last _ ⟨settled.dispositions, settled.counted⟩⟩

end Trap

-----------------------------------------------------------------------------------------
-- Coming to the raise
-----------------------------------------------------------------------------------------

/-- An attempt to hold threads still ends. -/
theorem Suspension.ends_begin : begin.Ends := by
  refine .bind (.exchange _ _) fun noted => ?_
  dsimp only
  split
  · exact .bind (.modify _) fun _ => .pure _
  · exact .pure _

/-- Going on after a capture ends. -/
theorem Suspension.ends_resume (suspension : Suspension) : suspension.resume.Ends := by
  unfold resume
  split
  · exact .modify _
  · exact .pure _

/-- The note of a failure ends, whether it is the first one or not. -/
theorem Pipeline.ends_notifyFatal (host : Host) (inSignalHandler : Bool)
    : (notifyFatal host inSignalHandler).Ends := by
  unfold notifyFatal
  dsimp only
  split
  case' isTrue => refine .bind (.modify _) fun _ => ?_
  all_goals
    refine .bind (.exchange _ _) fun again => ?_
    split
    · exact .pure _
    · exact .bind (.modify _) fun _ => .bind (.modify _) fun _ =>
        .bind (Activation.ends_disableAll host) fun _ => .pure _

/-- Handling an event ends when the callback does. -/
theorem Pipeline.ends_handle (onEvent : ∀ event, (host.onEvent event).Ends) (event : Event)
    : (handle host event).Ends := by
  refine .bind (.exchange _ _) fun crashed => ?_
  refine .bind (fun process => ⟨_, process, annotateEach_run process _ _⟩) fun shown => ?_
  refine .bind (.bind (.exchange _ _) fun registered => ?_) fun result => ?_
  · split
    · exact onEvent shown
    · exact .bind (.modify _) fun _ => .pure _
  · dsimp only
    split
    · exact .bind (Activation.ends_disableAll host) fun _ => .pure _
    · exact .pure _

namespace Trap

/-- A capture ends when the callback is discreet. -/
theorem ends_capture (discreet : host.Discreet) (signal : FatalSignal) (cause : SignalCause)
    : (capture host signal cause).Ends := by
  refine .bind Suspension.ends_begin fun suspension => ?_
  refine .bind (Pipeline.ends_notifyFatal host true) fun crashedDuring => ?_
  refine .bind (fun _ => ⟨_, _, rfl⟩) fun context => ?_
  refine .bind (.exchange _ _) fun maxDepth => ?_
  refine .bind (.bind (.exchange _ _) fun _ => .bind (.exchange _ _) fun _ => .pure _) fun id => ?_
  exact .bind (Pipeline.ends_handle discreet.ends _) fun _ => suspension.ends_resume

/-- Declining a signal ends. -/
theorem ends_decline (host : Host) : (decline host).Ends := by
  refine .bind (.exchange _ _) fun _ => .bind ?_ fun _ => .modify _
  exact .bind (Handlers.ends_restore host) fun _ => AltStack.ends_release host

/-- Responding to a signal ends, captured or declined. -/
theorem ends_respond (discreet : host.Discreet) (signal : FatalSignal) (cause : SignalCause)
    : (respond host signal cause).Ends := by
  refine .bind (.modify _) fun _ => ?_
  refine .bind (.exchange _ _) fun isOn => .bind (.exchange _ _) fun sigterm => ?_
  split
  · exact .bind (ends_capture discreet signal cause) fun _ => .modify _
  · exact .bind (ends_decline host) fun _ => .modify _

/-- The handler responds and then raises the signal again. -/
theorem handler_eq (host : Host) (signal : FatalSignal) (cause : SignalCause)
    : handler host signal cause
      = (respond host signal cause >>= fun _ => raiseBlocked host signal) := by
  rw [handler, respond, bind_assoc]
  refine congrArg _ (funext fun _ => ?_)
  rw [bind_assoc]
  refine congrArg _ (funext fun isOn => ?_)
  rw [bind_assoc]
  refine congrArg _ (funext fun sigterm => ?_)
  dsimp only
  split
  · rw [bind_assoc]
  · rw [bind_assoc]

/-- The handler always comes to its end, and then the signal is pending and what the slots in use
held is put back.
-/
theorem handler_run (restores : ∀ signal, host.kernel.restore signal = none)
    (discreet : host.Discreet) (signal : FatalSignal) (cause : SignalCause) (process : Process)
    : ∃ after,
        (handler host signal cause).run process = (some (), after)
        ∧ PutBack process after
        ∧ signal ∈ (after.threads host.thread).pending := by
  obtain ⟨_, raised, ends⟩ := ends_respond discreet signal cause process
  have back := (respond_putsBack restores discreet signal cause process).run_eq ends
  have reraised
      : (handler host signal cause).run process = (raiseBlocked host signal).run raised := by
    rw [handler_eq, run_bind, ends]
  refine ⟨_, reraised.trans rfl, ⟨back.dispositions, back.counted⟩, ?_⟩
  simp [Process.updateThread]

/-- A signal that the handler gets is delivered again, to what its disposition is by then. -/
theorem deliverWithin_again (restores : ∀ signal, host.kernel.restore signal = none)
    (discreet : host.Discreet) (trapped : process.dispositions signal = .capture)
    (cause : SignalCause)
    : ∃ after,
        PutBack process after
        ∧ ∀ rounds,
            (deliverWithin host (rounds + 1) signal cause).run process
              = (deliverWithin host rounds signal .sentByItself).run after := by
  obtain ⟨left, handled, back, pending⟩ :=
    handler_run restores discreet signal cause
      (process.updateThread host.thread fun thread => { thread with
        blocked := signal :: thread.blocked
        onAltStack := thread.onAltStack || true && thread.altStack.isSome })
  have found : left.dispositions = process.handedBack ∧ left.table.installed = 0 :=
    ⟨back.dispositions, back.counted⟩
  let returned := left.updateThread host.thread fun thread => { thread with
    blocked := (process.threads host.thread).blocked
    onAltStack := (process.threads host.thread).onAltStack }
  have ran
      : (inHandler host signal true (handler host signal cause)).run process
        = (some (), returned) := by
    rw [inHandler, run_bind, Host.askThread, run_ask]
    dsimp only
    rw [run_bind, Host.modifyThread, run_modify]
    dsimp only
    rw [run_bind, id_def, handled]
    rfl
  have again : (returned.threads host.thread).pending.contains signal = true := by
    simpa [returned, Process.updateThread] using pending
  refine ⟨returned.updateThread host.thread fun thread =>
    { thread with pending := thread.pending.erase signal }, ⟨found.1, found.2⟩, fun rounds => ?_⟩
  rw [deliverWithin, run_bind, run_ask]
  simp only [trapped]
  rw [run_bind, ran]
  dsimp only
  rw [run_bind, takePending, run_exchange, again]
  rfl

/-- Where the slots in use hand a signal back to the handler, it is delivered again for ever, by
induction on the rounds.
-/
theorem deliverWithin_livelock (restores : ∀ signal, host.kernel.restore signal = none)
    (discreet : host.Discreet) (trapped : process.dispositions signal = .capture)
    (back : process.handedBack signal = .capture) (cause : SignalCause) (rounds : Nat)
    : ∃ after,
        (deliverWithin host rounds signal cause).run process = (none, after)
        ∧ after.ending = some .livelock := by
  induction rounds generalizing process cause with
  | zero => exact ⟨_, rfl, rfl⟩
  | succ rounds ih =>
      obtain ⟨again, putBack, same⟩ := deliverWithin_again restores discreet trapped cause
      have caught : again.dispositions signal = .capture := by
        rw [putBack.dispositions, back]
      have empty : again.handedBack = again.dispositions := by
        rw [Process.handedBack, putBack.counted]
        rfl
      rw [same rounds]
      exact ih caught (by rw [empty, caught]) _

end Trap

-----------------------------------------------------------------------------------------
-- Signals between the steps of a run
-----------------------------------------------------------------------------------------

open Trap

/-- Whenever a signal is trapped in a run, between whatever steps, its handler comes to raise it
again, and it is delivered to what its disposition is by then. If a slot in use has it, that is
what it was before the run; otherwise it is the handler, for ever.
-/
theorem trapped_goes_back {start : Process} (off : start.enabled.signal = false)
    (empty : start.table = {}) (foreign : ∀ signal, start.dispositions signal ≠ .capture)
    {α : Type} {run : Action α}
    (composed
      : Composed (fun process => (process.enabled.signal, process.installed))
          (Undisturbed start.dispositions) run)
    (restores : ∀ signal, host.kernel.restore signal = none) (discreet : host.Discreet)
    {visited : Process} (member : visited ∈ run.states start)
    (trapped : visited.dispositions signal = .capture) (cause : SignalCause)
    : ∃ raised again,
        (respond host signal cause).run visited = (some (), raised)
        ∧ again.dispositions = raised.dispositions
        ∧ (∀ rounds,
            (deliverWithin host (rounds + 1) signal cause).run visited
              = (deliverWithin host rounds signal .sentByItself).run again)
        ∧ (visited.Recorded signal
          → raised.dispositions signal = start.dispositions signal
            ∧ raised.dispositions signal ≠ .capture)
        ∧ (¬ visited.Recorded signal
          → raised.dispositions signal = .capture
            ∧ ∀ rounds, ∃ after,
                (deliverWithin host rounds signal cause).run visited = (none, after)
                ∧ after.ending = some .livelock) := by
  have begins : Accounted start.dispositions start := by
    refine .of_off off ⟨rfl, ?_, ?_⟩
    · rw [empty, saved_nil]
    · rw [empty]
      rfl
  have within : Within start.dispositions FatalSignal.all visited :=
    (run_maintains composed start begins).mem_states begins.within member
  obtain ⟨_, raised, ends⟩ := ends_respond discreet signal cause visited
  have back := (respond_putsBack restores discreet signal cause visited).run_eq ends
  obtain ⟨again, putBack, delivered⟩ := deliverWithin_again restores discreet trapped cause
  refine ⟨raised, again, ends, ?_, delivered, fun recorded => ?_, fun unrecorded => ?_⟩
  · rw [putBack.dispositions, back.dispositions]
  · rcases visited.handedBack_cases signal with ⟨unrecorded, _⟩ | ⟨_, index, holds⟩
    · exact absurd recorded unrecorded
    · have original := within.saved index signal _ holds
      rw [back.dispositions, original]
      exact ⟨rfl, foreign signal⟩
  · rcases visited.handedBack_cases signal with ⟨_, same⟩ | ⟨recorded, _⟩
    · have caught := same.trans trapped
      refine ⟨by rw [back.dispositions, caught], ?_⟩
      exact fun rounds => deliverWithin_livelock restores discreet trapped caught cause rounds
    · exact absurd recorded unrecorded

/-- A callback that does nothing is discreet. -/
theorem Host.discreet_plain : Host.plain.Discreet where
  ends _ := .bind (.exchange _ _) fun _ => .bind (.modify _) fun _ => .pure _
  leaves _ := .bind (.ask _) fun _ => .bind (.modify fun _ => rfl) fun _ => .pure _
  fatal _ _ := ⟨trivial, trivial, rfl⟩

/-- After the handler was installed for the first signal and nothing else, that signal goes back
to its default.
-/
theorem trapped_goes_back_of_first_signal
    : ∃ visited ∈ ((Call.setEnabled .signal true).perform .plain).states .fresh,
        visited.dispositions .abort = .capture
        ∧ visited.table.installed = 1
        ∧ ∃ raised,
            (respond .plain .abort { code := 0 }).run visited = (some (), raised)
            ∧ raised.dispositions .abort = .standard := by
  have reached
      : ∃ visited ∈ ((Call.setEnabled .signal true).perform .plain).states .fresh,
          visited.dispositions .abort = .capture
          ∧ visited.table.installed = 1
          ∧ visited.table.slots.get (FatalSignal.slot .abort) = some (.abort, .standard) := by
    decide +kernel
  obtain ⟨visited, member, trapped, counted, saved⟩ := reached
  have foreign : ∀ signal, Process.fresh.dispositions signal ≠ .capture := by
    intro signal
    cases signal <;> decide
  have composed
      : Composed (fun process => (process.enabled.signal, process.installed))
          (Undisturbed Process.fresh.dispositions)
          ((Call.setEnabled .signal true).perform .plain) :=
    .of_plain ⟨fun _ => rfl, by simp [Call.sends]⟩ fun _ _ => rfl
  have recorded : visited.Recorded .abort :=
    ⟨FatalSignal.slot .abort, by rw [counted]; decide, _, saved⟩
  obtain ⟨raised, _, ends, _, _, goesBack, _⟩ :=
    trapped_goes_back rfl rfl foreign composed (fun _ => rfl) Host.discreet_plain member trapped
      { code := 0 }
  exact ⟨visited, member, trapped, counted, raised, ends, (goesBack recorded).1⟩

/-- Termination that is asked for just after the handler was installed for it, before its slot is
in use, or while handlers are removed, comes back to the handler, which raises it for ever.
-/
theorem termination_comes_back
    : (∃ visited ∈ ((Call.setEnabled .signal true).perform .plain).states .fresh,
        visited.dispositions .terminate = .capture
        ∧ ((respond .plain .terminate { code := 0 }).run visited).1 = some ()
        ∧ ((respond .plain .terminate { code := 0 }).run visited).2.dispositions .terminate
          = .capture
        ∧ ((send .plain .terminate { code := 0 }).run visited).2.ending = some .livelock)
      ∧ ∃ visited ∈ ((Call.setEnabled .signal false).perform .plain).states .watched,
          visited.dispositions .terminate = .capture
          ∧ ((respond .plain .terminate { code := 0 }).run visited).1 = some ()
          ∧ ((respond .plain .terminate { code := 0 }).run visited).2.dispositions .terminate
            = .capture
          ∧ ((send .plain .terminate { code := 0 }).run visited).2.ending = some .livelock := by
  decide +kernel

end CrashCapture
