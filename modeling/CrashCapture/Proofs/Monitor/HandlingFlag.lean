import CrashCapture.Proofs.Monitor.Deliveries

/-! The mark of a fatal failure being handled. It is set by the first fatal note and nothing
ever clears it, so it outlives a failure that the process survives; from then on a panic is
taken for a second failure in the course of the first.
-/

namespace CrashCapture

open Steps

variable {host : Host} {process : Process} {callback : Event → Action Event}

-----------------------------------------------------------------------------------------
-- The mark stays
-----------------------------------------------------------------------------------------

/-- A fatal failure is on record. -/
abbrev Noted (process : Process) : Prop := process.handling = true

/-- The note of a failure is an invariant at rest, since nothing clears it. -/
theorem upheld_noted : Upheld Noted Noted where
  implied _ noted := noted
  decided same noted := (congrArg (·.1.handling) same).trans noted
  handling _ _ := rfl
  crashed _ noted := noted
  cleared _ _ _ noted := noted

/-- Installing and removing handlers keeps the note. -/
theorem noted_unwatched {α : Type} {action : Action α} (unwatched : action.Unwatched)
    : action.Maintains Noted Noted :=
  .of_leaves (fun _ noted => noted)
    (fun same noted => (congrArg Watch.handling same).trans noted) unwatched

/-- Swapping a flag keeps the note. -/
theorem noted_swap (monitor : Monitor) (on : Bool)
    : (Activation.swap monitor on).Maintains Noted Noted :=
  .exchange (fun _ noted => noted) fun _ noted => noted

/-- Switching the signal monitor keeps the note. -/
theorem noted_setSignals (host : Host) (on : Bool)
    : (Activation.setSignals host on).Maintains Noted Noted := by
  refine .bind (noted_swap .signal on) fun was => ?_
  split
  · exact .pure _
  · split
    · exact .bind (noted_unwatched (Activation.unwatched_uninstallSignals host)) fun _ =>
        .pure _
    · refine .bind (noted_unwatched (Activation.unwatched_installSignals host)) fun result => ?_
      cases result with
      | ok _ => exact .pure _
      | error failure => exact .bind (noted_swap .signal false) fun _ => .pure _

/-- Declining a signal keeps the note. -/
theorem noted_decline (host : Host) : (Trap.decline host).Maintains Noted Noted :=
  .bind (noted_swap .signal false) fun _ =>
    .bind (noted_unwatched (Activation.unwatched_uninstallSignals host)) fun _ =>
      upheld_noted.aside (.modify fun _ => rfl)

/-- The guard handler keeps the note when it stands down. -/
theorem spared_noted (host : Host) (signal : FatalSignal) (address : Address)
    : Trap.Spared host Noted Noted signal address := fun _ _ _ =>
  .inr (.bind (noted_unwatched (Activation.hidden_watch.handlers.setDisposition _ _ _).leaves)
    fun _ => .pure _)

/-- A host whose own code keeps the note upholds it. -/
theorem upholds_noted (onEvent : ∀ event, (host.onEvent event).Maintains Noted Noted)
    (onSignal : ∀ number signal, (host.onSignal number signal).Maintains Noted Noted)
    (onPanic : ∀ text, (host.onPanic text).Maintains Noted Noted)
    : host.Upholds Noted Noted :=
  .of_onEvent (upheld_noted.carried (noted_setSignals host false)) (noted_decline host) onEvent
    onSignal onPanic

/-- No call clears the mark, and nothing else in a run does. -/
theorem run_noted {α : Type} {run : Action α}
    (composed : Composed Process.handling (fun _ _ => True) run)
    : run.Maintains Noted Noted := by
  refine composed.maintains (fun _ noted => noted) (fun same noted => same.trans noted) ?_
  intro host call _ onEvent onSignal onPanic
  refine Call.maintains upheld_noted (upholds_noted onEvent onSignal onPanic)
    (fun _ _ noted => noted) (fun _ => ⟨noted_setSignals host true, fun _ _ _ noted => noted⟩) ?_
  exact fun sent _ => spared_noted host sent.1 sent.2

-----------------------------------------------------------------------------------------
-- A captured signal sets it
-----------------------------------------------------------------------------------------

/-- What keeps the note ends with it from where it is made. -/
theorem Steps.Maintains.ends_noted {α : Type} {action : Action α}
    (maintains : action.Maintains Noted Noted) (noted : Noted process)
    : action.Ensures (fun _ => True) (fun _ => Noted) process :=
  (maintains process noted).mono (fun _ _ => trivial) fun _ _ noted => noted

namespace Trap

/-- Capturing a signal notes a fatal failure before anything else can happen. -/
theorem capture_noted (onEvent : ∀ event, (host.onEvent event).Maintains Noted Noted)
    (signal : FatalSignal) (cause : SignalCause)
    : (capture host signal cause).Ensures (fun _ => True) (fun _ => Noted) process := by
  rw [capture, ensures_bind]
  refine (Suspension.hidden_core.begin.leaves process).mono (fun _ _ => trivial)
    fun suspension begun _ => ?_
  rw [ensures_bind]
  refine (Pipeline.notifyFatal_ensures host begun true).mono (fun _ _ => trivial)
    fun crashedDuring after ⟨_, watch⟩ => ?_
  have noted : Noted after := by
    have mark : after.handling = begun.watch.noted.handling := congrArg Watch.handling watch
    rw [Noted, mark, Watch.noted]
    split
    next already => exact already
    next => rfl
  refine Maintains.ends_noted ?_ noted
  refine .bind (upheld_noted.aside (Action.hidden_core.hear _).leaves) fun context => ?_
  refine .bind (upheld_noted.ask _) fun maxDepth =>
    .bind (upheld_noted.aside (Trap.loadId_leaves _)) fun id => ?_
  exact .bind ((upheld_noted.carried (noted_setSignals host false)).handle onEvent _) fun _ =>
    upheld_noted.aside (Action.hidden_core.resume suspension).leaves

/-- A signal that is wanted leaves the note behind, as its capture makes it. -/
theorem handler_noted (onEvent : ∀ event, (host.onEvent event).Maintains Noted Noted)
    {signal : FatalSignal} (cause : SignalCause) (on : process.enabled.signal = true)
    (wanted : isWanted signal process.sigterm = true)
    : (handler host signal cause).Ensures (fun _ => True) (fun _ => Noted) process := by
  rw [handler, ensures_bind]
  refine ((Action.hidden_core.log _ _ _).leaves process).mono (fun _ _ => trivial)
    fun _ logged same => ?_
  have stillOn : logged.enabled.signal = true :=
    (congrArg (·.1.enabled.signal) same).trans on
  have gate : logged.sigterm = process.sigterm := congrArg (·.1.sigterm) same
  simp only [ensures_bind, ensures_ask, stillOn, gate, wanted, Bool.and_self, if_true]
  refine ⟨trivial, trivial, (capture_noted onEvent signal cause).mono (fun _ fine => fine)
    fun _ after noted => ?_⟩
  have last := upheld_noted.aside (Action.hidden_core.log .debug .signalMonitor
    ("re-raising signal " ++ Digits.decimal signal.number)).leaves
  refine (last after noted).mono (fun _ _ => trivial) fun _ after noted => ?_
  exact (upheld_noted.aside (apart_raiseBlocked host signal).aside).ends_noted noted

/-- A captured signal that the process survives leaves the mark behind. -/
theorem send_noted (onEvent : ∀ event, (host.onEvent event).Maintains Noted Noted)
    (onSignal : ∀ number signal, (host.onSignal number signal).Maintains Noted Noted)
    (onPanic : ∀ text, (host.onPanic text).Maintains Noted Noted)
    {signal : FatalSignal} (cause : SignalCause) (on : process.enabled.signal = true)
    (wanted : isWanted signal process.sigterm = true)
    (caught : process.dispositions signal = .capture)
    (free : (process.threads host.thread).blocked.contains signal = false)
    : (send host signal cause).Ensures (fun _ => True) (fun _ => Noted) process := by
  have upholds := upholds_noted onEvent onSignal onPanic
  have again
      : (do
          if ← takePending host signal then
            deliverWithin host 7 signal .sentByItself).Maintains Noted Noted := by
    refine .bind (upheld_noted.aside (apart_takePending host signal).aside) fun isPending => ?_
    split
    · exact upheld_noted.steady.deliverWithin upholds (spared_noted host _ _) _
        (spared_noted host _ _) (spared_noted host _ _)
    · exact .pure _
  rw [send, ensures_bind, Host.askThread, ensures_ask, free]
  refine ⟨trivial, ?_⟩
  rw [if_neg (by decide), roundLimit, deliverWithin, ensures_bind, ensures_ask, caught]
  refine ⟨trivial, ensures_bind.mpr ?_⟩
  rw [inHandler, ensures_bind, Host.askThread, ensures_ask, ensures_bind]
  refine ⟨trivial, ((host.apart_modifyThread _).aside process).mono (fun _ _ => trivial)
    fun _ entered same => ?_⟩
  have stillOn : entered.enabled.signal = true :=
    (congrArg (·.1.enabled.signal) same).trans on
  have gate : entered.sigterm = process.sigterm := congrArg (·.1.sigterm) same
  rw [ensures_bind]
  refine (handler_noted onEvent cause stillOn (gate ▸ wanted)).mono (fun _ fine => fine)
    fun _ after noted => ?_
  refine (upheld_noted.aside (host.apart_modifyThread _).aside).ends_noted noted |>.mono
    (fun _ fine => fine) fun _ after noted => again.ends_noted noted

end Trap

-----------------------------------------------------------------------------------------
-- What a panic makes of it
-----------------------------------------------------------------------------------------

/-- With a modest callback in place, handling an event delivers that one event. -/
theorem Pipeline.handle_delivers (modest : Modest callback) (event : Event)
    (registered : process.callback = true)
    : (handle (host.calling callback) event).Ensures (fun _ => True)
        (fun _ after =>
          after.events = process.events ++ [shown process event]
          ∧ (event.isFatal = true → after.enabled = .none)) process := by
  refine handle_ensures trivial ?_
  have delivered
      : (deliver (host.calling callback) (shown process event)).Ensures (fun _ => True)
          (fun result after =>
            after.events = process.events ++ [shown process event]
            ∧ result.isFatal = event.isFatal) process := by
    rw [deliver, ensures_bind, ensures_ask, registered]
    refine ⟨trivial, ensures_bind.mpr ⟨trivial, ?_⟩⟩
    refine ((modest.meek _ _).and (modest.keeps _ _)).mono (fun _ _ => trivial)
      fun result after kept => ⟨?_, kept.2.trans (shown_isFatal process event)⟩
    exact kept.1.events.trans (process.events_record _ _)
  refine ensures_bind.mpr (delivered.mono (fun _ _ => trivial) fun result after kept => ?_)
  obtain ⟨events, same⟩ := kept
  dsimp only
  split
  next =>
    rw [ensures_bind]
    refine ((Activation.meek_disableAll _ after).and
      (Activation.disableAll_ensures _ after)).mono (fun _ _ => trivial) ?_
    rintro _ final ⟨calmed, watch⟩
    exact ⟨calmed.events.trans events, fun _ => congrArg Watch.enabled watch⟩
  next harmless => exact ⟨events, fun fatal => absurd (same.trans fatal) harmless⟩

/-- An event made from a snapshot while the other threads are held is delivered with its marks.
-/
theorem Pipeline.handle_snapshot_delivers (modest : Modest callback)
    (snapshot : Log.Noted Context) {event : Context → Event} {isFatal crashedDuring : Bool}
    (registered : process.callback = true)
    (marked
      : ∀ context,
          (event context).isFatal = isFatal
          ∧ ((event context).crashedDuring || process.crashedDuring) = crashedDuring)
    : (do
        let suspension ← Suspension.begin
        let context ← Action.hear snapshot
        let _ ← handle (host.calling callback) (event context)
        suspension.resume : Action Unit).Ensures (fun _ => True)
        (fun _ after =>
          ∃ event : Event,
            after.events = process.events ++ [event]
            ∧ event.isFatal = isFatal
            ∧ event.crashedDuring = crashedDuring
            ∧ (isFatal = true → after.enabled = .none)) process := by
  rw [ensures_bind]
  refine (Suspension.hidden_watch.begin.leaves process).mono (fun _ _ => trivial)
    fun suspension begun same => ?_
  rw [ensures_bind]
  refine ((Action.hidden_watch.hear snapshot).leaves begun).mono (fun _ _ => trivial)
    fun context seen unchanged => ?_
  have watch : seen.watch = process.watch := unchanged.trans same
  have events : seen.events = process.events := congrArg Watch.events watch
  have flag : seen.crashedDuring = process.crashedDuring := congrArg Watch.crashedDuring watch
  have hears : seen.callback = true := (congrArg Watch.callback watch).trans registered
  rw [ensures_bind]
  refine (handle_delivers modest (event context) hears).mono (fun _ _ => trivial)
    fun _ after ⟨delivered, off⟩ => ?_
  refine ((Action.hidden_watch.resume suspension).leaves after).mono (fun _ _ => trivial)
    fun _ final last => ?_
  obtain ⟨fatal, crashed⟩ := marked context
  have finalEvents : final.events = after.events := congrArg Watch.events last
  have finalEnabled : final.enabled = after.enabled := congrArg Watch.enabled last
  refine ⟨shown seen (event context), ?_, ?_, ?_, fun isFatal => ?_⟩
  · rw [finalEvents, delivered, events]
  · rw [shown_isFatal, fatal]
  · rw [shown_crashedDuring, flag, crashed]
  · rw [finalEnabled]
    exact off (fatal.trans isFatal)

/-- A panic is fatal, and flagged, exactly while the mark is set; then no monitor stays on. -/
theorem Panic.capture_delivers (modest : Modest callback) (cause : Cause)
    (registered : process.callback = true)
    : (capture (host.calling callback) cause).Ensures (fun _ => True)
        (fun _ after =>
          ∃ event : Event,
            after.events = process.events ++ [event]
            ∧ event.isFatal = process.handling
            ∧ event.crashedDuring = (process.handling || process.crashedDuring)
            ∧ (process.handling = true → after.enabled = .none)) process := by
  rw [capture, ensures_bind]
  refine ((Host.hidden_watch.issue _).leaves process).mono (fun _ _ => trivial)
    fun id issued same => ?_
  have mark : issued.handling = process.handling := congrArg Watch.handling same
  have flag : issued.crashedDuring = process.crashedDuring := congrArg Watch.crashedDuring same
  have events : issued.events = process.events := congrArg Watch.events same
  have hears : issued.callback = true := (congrArg Watch.callback same).trans registered
  rw [ensures_bind, ensures_ask, mark, ← events]
  refine ⟨trivial, ?_⟩
  cases fatal : process.handling with
  | false =>
      refine Pipeline.handle_snapshot_delivers modest _ hears fun context => ⟨rfl, ?_⟩
      rw [flag]
  | true =>
      refine ensures_bind.mpr ?_
      refine (Pipeline.notifyFatal_ensures _ issued false).mono (fun _ _ => trivial)
        fun crashedDuring start marked => ?_
      obtain ⟨again, watch⟩ := marked
      have already : issued.watch.handling = true := mark.trans fatal
      rw [Watch.noted, if_pos already] at watch
      have startEvents : start.events = issued.events := congrArg Watch.events watch
      rw [← startEvents]
      refine Pipeline.handle_snapshot_delivers modest _
        ((congrArg Watch.callback watch).trans hears) fun context => ⟨rfl, ?_⟩
      rw [again, mark, fatal]
      rfl

-----------------------------------------------------------------------------------------
-- After a failure that was survived
-----------------------------------------------------------------------------------------

/-- Once a trapped signal was survived, the mark is set in every state of whatever the program
does later, although no failure is being handled. A panic then is fatal and flagged, and turns
every monitor off; without the mark it is neither, and leaves the monitors to the callback.
-/
theorem handling_outlives_failure {host : Host}
    (onEvent
      : ∀ event, Composed Process.handling (fun _ _ => True) (host.onEvent event))
    (onSignal
      : ∀ number signal,
          Composed Process.handling (fun _ _ => True) (host.onSignal number signal))
    (onPanic
      : ∀ text, Composed Process.handling (fun _ _ => True) (host.onPanic text))
    {start after : Process} {signal : FatalSignal} {cause : SignalCause}
    (on : start.enabled.signal = true) (wanted : Trap.isWanted signal start.sigterm = true)
    (caught : start.dispositions signal = .capture)
    (free : (start.threads host.thread).blocked.contains signal = false)
    (survived : ((Call.raise signal cause).perform host).run start = (some (), after))
    {α : Type} {later : Action α}
    (composed : Composed Process.handling (fun _ _ => True) later)
    : (∀ visited ∈ later.states after, visited.handling = true)
      ∧ ∀ (host : Host) (callback : Event → Action Event) (panic : Panic.Cause)
          (process final : Process),
          process.callback = true
          → Modest callback
          → (Panic.capture (host.calling callback) panic).run process = (some (), final)
          → ∃ event : Event,
              final.events = process.events ++ [event]
              ∧ event.isFatal = process.handling
              ∧ event.crashedDuring = (process.handling || process.crashedDuring)
              ∧ (process.handling = true → final.enabled = .none)
              ∧ (process.handling = false → Changes Eq callback
                → final.enabled = process.enabled) := by
  have noted : Noted after :=
    (Trap.send_noted (fun event => run_noted (onEvent event))
      (fun number signal => run_noted (onSignal number signal))
      (fun text => run_noted (onPanic text)) cause on wanted caught free).run_eq survived
  refine ⟨fun visited member => (run_noted composed after noted).mem_states noted member, ?_⟩
  intro host callback panic process final registered modest ends
  obtain ⟨event, events, fatal, flagged, off⟩ :=
    (Panic.capture_delivers modest panic registered).run_eq ends
  refine ⟨event, events, fatal, flagged, off, fun idle changes => ?_⟩
  exact ((Panic.capture_harmless (fun _ => rfl) changes panic idle).run_eq ends).symm

/-- In the plainest surroundings nothing but calls touches the mark. -/
theorem plain_leaves_handling
    : (∀ event, Composed Process.handling (fun _ _ => True) (Host.plain.onEvent event))
      ∧ (∀ number signal,
          Composed Process.handling (fun _ _ => True) (Host.plain.onSignal number signal))
      ∧ ∀ text, Composed Process.handling (fun _ _ => True) (Host.plain.onPanic text) :=
  ⟨fun _ => .own (.bind (.ask _) fun _ => .bind (.modify fun _ => rfl) fun _ => .pure _),
    fun _ _ => .own (.modify fun _ => rfl), fun _ => .own (.modify fun _ => rfl)⟩

/-- An ignored signal is survived, and the mark is still set when all monitors are on again. -/
theorem handling_outlives_failure_of_ignored_signal
    : ∃ after,
        ((Call.raise .pipe { code := 0 }).perform .plain).run .watched = (some (), after)
        ∧ Process.watched.enabled.signal = true
        ∧ Process.watched.dispositions .pipe = .capture
        ∧ ∀ visited ∈ ((Call.setActive .all).perform .plain).states after,
            visited.handling = true := by
  have on : Process.watched.enabled.signal = true := by decide +kernel
  have caught : Process.watched.dispositions .pipe = .capture := by decide +kernel
  have ends
      : (((Call.raise .pipe { code := 0 }).perform .plain).run .watched).1 = some () := by
    decide +kernel
  have ended
      : ((Call.raise .pipe { code := 0 }).perform .plain).run .watched
        = (some (), (((Call.raise .pipe { code := 0 }).perform .plain).run .watched).2) :=
    Prod.ext ends rfl
  obtain ⟨onEvent, onSignal, onPanic⟩ := plain_leaves_handling
  have later : Composed Process.handling (fun _ _ => True)
      ((Call.setActive .all).perform .plain) := .of_plain trivial fun _ _ => rfl
  exact ⟨_, ended, on, caught,
    (handling_outlives_failure onEvent onSignal onPanic on rfl caught (by decide +kernel) ended
      later).1⟩

/-- No failure is being handled any more when the signal was survived, yet the mark is set; the
next panic, which is caught, counts as fatal and turns off all monitors that were on again.
-/
theorem handling_while_nothing_is_handled
    : ∃ after,
        ((Call.raise .pipe { code := 0 }).perform .plain).run .watched = (some (), after)
        ∧ after.handling = true
        ∧ ∃ final,
            (do
              (Call.setActive .all).perform .plain
              (Call.panic {}).perform .plain : Action Unit).run after = (some (), final)
            ∧ final.events.map (fun event => (event.isFatal, event.crashedDuring))
              = [(true, false), (true, true)]
            ∧ final.enabled = .none := by
  have ends
      : (((Call.raise .pipe { code := 0 }).perform .plain).run .watched).1 = some () := by
    decide +kernel
  have again
      : ((do
          (Call.setActive .all).perform .plain
          (Call.panic {}).perform .plain : Action Unit).run
            (((Call.raise .pipe { code := 0 }).perform .plain).run .watched).2).1
        = some () := by
    decide +kernel
  refine ⟨_, Prod.ext ends rfl, by decide +kernel, _, Prod.ext again rfl, ?_, ?_⟩
  all_goals decide +kernel

end CrashCapture
