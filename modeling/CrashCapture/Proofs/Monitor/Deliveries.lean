import CrashCapture.Proofs.Monitor.Calls
import CrashCapture.Proofs.Monitor.Switching

/-! What the callback gets to see. Handling an event calls it once. After a fatal event all
monitors are off, so that it is the last one until a monitor is turned on again; an event that
is not fatal leaves the monitors to the callback.
-/

namespace CrashCapture

open Steps

variable {host : Host} {process : Process} {callback : Event → Action Event}

-----------------------------------------------------------------------------------------
-- The callback on record
-----------------------------------------------------------------------------------------

/-- The host with a callback whose every call goes on record, with the event handed over. -/
def Host.calling (host : Host) (callback : Event → Action Event) : Host :=
  { host with
    onEvent := fun event => do
      Action.record (.event event false)
      callback event }

/-- A callback that turns no monitor on, causes no further event and leaves an event as fatal
as it was.
-/
structure Modest (callback : Event → Action Event) : Prop where
  meek : ∀ event, (callback event).Meek
  keeps
    : ∀ event process,
        (callback event).Ensures (fun _ => True)
          (fun result _ => result.isFatal = event.isFatal) process

/-- The program's own handlers and hook cause no event and turn no monitor on. -/
structure Host.Quiet (host : Host) : Prop where
  onSignal : ∀ number signal, (host.onSignal number signal).Meek
  onPanic : ∀ text, (host.onPanic text).Meek

/-- An event that is put on record comes last. -/
theorem Process.events_record (process : Process) (event : Event) (ofSignals : Bool)
    : (process.record (.event event ofSignals)).events = process.events ++ [event] := by
  simp [events, record, Happening.event?]

namespace Pipeline

/-- What the monitors that are on make of an event. -/
def annotated (enabled : Selection) (monitors : List Monitor) (event : Event) : Event :=
  monitors.foldl
    (fun event monitor => if enabled.contains monitor then annotate event monitor else event)
    event

/-- The event that is handed over. -/
def shown (process : Process) (event : Event) : Event :=
  annotated process.enabled Monitor.all
    { event with crashedDuring := event.crashedDuring || process.crashedDuring }

/-- Annotations leave marks alone, by induction on the monitors. -/
theorem annotated_marks (enabled : Selection) (monitors : List Monitor) (event : Event)
    : (annotated enabled monitors event).isFatal = event.isFatal
      ∧ (annotated enabled monitors event).crashedDuring = event.crashedDuring := by
  induction monitors generalizing event with
  | nil => exact ⟨rfl, rfl⟩
  | cons monitor rest ih =>
      have marks
          : (annotate event monitor).isFatal = event.isFatal
            ∧ (annotate event monitor).crashedDuring = event.crashedDuring := by
        unfold annotate
        split
        · split <;> exact ⟨rfl, rfl⟩
        · exact ⟨rfl, rfl⟩
      rw [annotated, List.foldl_cons]
      split
      · exact ⟨(ih _).1.trans marks.1, (ih _).2.trans marks.2⟩
      · exact ih event

/-- An event is shown as fatal as it is. -/
theorem shown_isFatal (process : Process) (event : Event)
    : (shown process event).isFatal = event.isFatal := (annotated_marks ..).1

/-- An event is shown as one during a crash when it was or the process crashed while handling
one.
-/
theorem shown_crashedDuring (process : Process) (event : Event)
    : (shown process event).crashedDuring = (event.crashedDuring || process.crashedDuring) :=
  (annotated_marks ..).2

/-- Annotating only looks at the process, by induction on the monitors. -/
theorem annotateEach_ensures (process : Process) (monitors : List Monitor) (event : Event)
    : (annotateEach event monitors).Ensures (fun after => after = process)
        (fun result after =>
          after = process ∧ result = annotated process.enabled monitors event) process := by
  induction monitors generalizing event with
  | nil => exact ⟨rfl, rfl⟩
  | cons monitor rest ih =>
      rw [annotateEach, ensures_bind, ensures_ask]
      exact ⟨rfl, ih _⟩

/-- Handling an event is delivering what is shown of it, and turning the monitors off when it
is fatal then.
-/
theorem handle_ensures {always : Process → Prop} {post : Event → Process → Prop} {event : Event}
    (start : always process)
    (delivering
      : (do
          let result ← deliver host (shown process event)
          if result.isFatal then Activation.disableAll host
          return result : Action Event).Ensures always post process)
    : (handle host event).Ensures always post process := by
  rw [handle, ensures_bind, ensures_ask]
  refine ⟨start, ensures_bind.mpr ?_⟩
  refine (annotateEach_ensures _ _ _).mono (fun _ same => same ▸ start) ?_
  rintro _ after ⟨rfl, rfl⟩
  exact delivering

/-- Completing an event is a function of the monitors that are on, by induction on those left.
-/
theorem annotateEach_run (process : Process) (monitors : List Monitor) (event : Event)
    : (annotateEach event monitors).run process
      = (some (annotated process.enabled monitors event), process) := by
  induction monitors generalizing event with
  | nil => rfl
  | cons monitor rest ih =>
      rw [annotateEach, run_bind, run_ask]
      exact ih _

/-- With a callback, delivering is calling it. -/
theorem handle_run (host : Host) (event : Event) (registered : process.callback = true)
    : (handle host event).run process
      = (do
          let result ← host.onEvent (shown process event)
          if result.isFatal then Activation.disableAll host
          return result : Action Event).run process := by
  rw [handle, run_bind, run_ask]
  dsimp only
  rw [run_bind, annotateEach_run]
  dsimp only
  rw [run_bind, deliver, run_bind, run_ask]
  simp only [registered, if_true]
  rw [run_bind]
  rfl

/-- One call of the callback is all that handling an event delivers, and the monitors that are
on afterwards are those that the call left on, or none after a fatal event.
-/
theorem handle_calling (host : Host) (callback : Event → Action Event) (event : Event)
    (registered : process.callback = true)
    : match (callback (shown process event)).run
          (process.record (.event (shown process event) false)) with
      | (none, stopped) =>
        (handle (host.calling callback) event).run process = (none, stopped)
      | (some result, after) =>
        ∃ final,
          (handle (host.calling callback) event).run process = (some result, final)
          ∧ final.events = after.events
          ∧ (result.isFatal = true → final.enabled = .none)
          ∧ (result.isFatal = false → final = after) := by
  have called
      : ((host.calling callback).onEvent (shown process event)).run process
        = (callback (shown process event)).run
            (process.record (.event (shown process event) false)) := by
    rw [Host.calling, run_bind, Action.record, run_modify]
  rw [handle_run _ _ registered, run_bind, called]
  split
  next stopped ends => rw [ends]
  next result after ends =>
    rw [ends]
    dsimp only
    cases fatal : result.isFatal with
    | false => exact ⟨after, rfl, rfl, by simp, fun _ => rfl⟩
    | true =>
        obtain ⟨_, final, ended⟩ := Activation.ends_disableAll (host.calling callback) after
        have watch := (Activation.disableAll_ensures _ after).run_eq ended
        refine ⟨final, ?_, congrArg Watch.events watch, fun _ => congrArg Watch.enabled watch,
          by simp⟩
        rw [if_pos rfl, run_bind, ended]
        rfl

end Pipeline

-----------------------------------------------------------------------------------------
-- A fatal event is the last one
-----------------------------------------------------------------------------------------

/-- An invariant that stands whatever delivers no event and turns no monitor on. -/
theorem Upheld.of_calmed {always inv : Process → Prop}
    (implied : ∀ process, inv process → always process)
    (stands : ∀ {before after}, Calmed before after → inv before → inv after)
    : Upheld always inv where
  implied := implied
  decided same holds := stands (.of_watch (congrArg Prod.fst same)) holds
  handling process holds :=
    have calmed : Calmed process { process with handling := true } := .of_eq rfl rfl
    stands calmed holds
  crashed process holds :=
    have calmed : Calmed process { process with crashedDuring := true } := .of_eq rfl rfl
    stands calmed holds
  cleared monitor _ process holds := stands (Activation.calmed_put_false process monitor) holds

section Runs

variable (base : List Event)

/-- Only the last event since then can have been fatal. -/
def LastFatal (process : Process) : Prop :=
  ∃ new, process.events = base ++ new ∧ ∀ event ∈ new.dropLast, event.isFatal = false

/-- No event since then was fatal. -/
def NoneFatal (process : Process) : Prop :=
  ∃ new, process.events = base ++ new ∧ ∀ event ∈ new, event.isFatal = false

/-- Either no event was fatal, or the last one was and all monitors are off. -/
def OffAfterFatal (process : Process) : Prop :=
  NoneFatal base process ∨ LastFatal base process ∧ process.enabled = .none

/-- Nothing is on and nothing was delivered. -/
def Silent (process : Process) : Prop := process.enabled = .none ∧ process.events = base

variable {base}

/-- Where no event is fatal, none before the last one is. -/
theorem NoneFatal.lastFatal (none : NoneFatal base process) : LastFatal base process := by
  obtain ⟨new, events, harmless⟩ := none
  exact ⟨new, events, fun event member => harmless event (List.dropLast_subset new member)⟩

/-- After events that are not fatal any one may come, as the last. -/
theorem NoneFatal.delivered (none : NoneFatal base process) (event : Event)
    : LastFatal base (process.record (.event event false)) := by
  obtain ⟨new, events, harmless⟩ := none
  refine ⟨new ++ [event], ?_, ?_⟩
  · rw [Process.events_record, events, List.append_assoc]
  · rw [List.dropLast_concat]
    exact harmless

/-- After events that are not fatal another one like them may come. -/
theorem NoneFatal.delivered_harmless (none : NoneFatal base process) {event : Event}
    (harmless : event.isFatal = false)
    : NoneFatal base (process.record (.event event false)) := by
  obtain ⟨new, events, others⟩ := none
  refine ⟨new ++ [event], ?_, ?_⟩
  · rw [Process.events_record, events, List.append_assoc]
  · intro other member
    rcases List.mem_append.mp member with earlier | last
    · exact others other earlier
    · exact List.mem_singleton.mp last ▸ harmless

/-- A calm stretch delivers nothing behind the last event. -/
theorem Calmed.lastFatal {before after : Process} (calmed : Calmed before after)
    (holds : LastFatal base before)
    : LastFatal base after := by
  rw [LastFatal, calmed.events]
  exact holds

/-- A calm stretch delivers nothing that is fatal. -/
theorem Calmed.noneFatal {before after : Process} (calmed : Calmed before after)
    (holds : NoneFatal base before)
    : NoneFatal base after := by
  rw [NoneFatal, calmed.events]
  exact holds

/-- Monitors that are off stay off in a calm stretch. -/
theorem Calmed.off {before after : Process} (calmed : Calmed before after)
    (off : before.enabled = .none)
    : after.enabled = .none := (off ▸ calmed.enabled).eq_none

/-- In a calm stretch the monitors stay off after a fatal event. -/
theorem Calmed.offAfterFatal {before after : Process} (calmed : Calmed before after)
    (holds : OffAfterFatal base before)
    : OffAfterFatal base after := by
  rcases holds with none | ⟨last, off⟩
  · exact .inl (calmed.noneFatal none)
  · exact .inr ⟨calmed.lastFatal last, calmed.off off⟩

/-- A calm stretch is silent after a silent one. -/
theorem Calmed.silent {before after : Process} (calmed : Calmed before after)
    (holds : Silent base before)
    : Silent base after := ⟨calmed.off holds.1, calmed.events.trans holds.2⟩

/-- In silence no monitor is on. -/
theorem Silent.off (silent : Silent base process) (monitor : Monitor)
    : process.enabled.contains monitor ≠ true := by
  rw [silent.1]
  cases monitor <;> decide

/-- While a monitor is on no event was fatal. -/
theorem OffAfterFatal.noneFatal (holds : OffAfterFatal base process) (monitor : Monitor)
    (on : process.enabled.contains monitor = true)
    : NoneFatal base process := by
  refine holds.resolve_right fun ⟨_, off⟩ => ?_
  rw [off] at on
  cases monitor <;> cases on

/-- That no event was fatal is an invariant at rest. -/
theorem upheld_noneFatal : Upheld (LastFatal base) (NoneFatal base) :=
  .of_calmed (fun _ none => none.lastFatal) fun calmed => calmed.noneFatal

/-- That monitors are off after a fatal event is an invariant at rest. -/
theorem upheld_offAfterFatal : Upheld (LastFatal base) (OffAfterFatal base) := by
  refine .of_calmed ?_ fun calmed => calmed.offAfterFatal
  rintro process (none | ⟨last, _⟩)
  · exact none.lastFatal
  · exact last

/-- Silence is an invariant at rest. -/
theorem upheld_silent : Upheld (Silent base) (Silent base) :=
  .of_calmed (fun _ silent => silent) fun calmed => calmed.silent

/-- While no event was fatal, any event may be delivered. -/
theorem Pipeline.deliver_ensures (modest : Modest callback) (event : Event)
    (none : NoneFatal base process)
    : (deliver (host.calling callback) event).Ensures (LastFatal base)
        (fun result after =>
          LastFatal base after ∧ (result.isFatal = false → NoneFatal base after)) process := by
  rw [deliver, ensures_bind, ensures_ask]
  refine ⟨none.lastFatal, ?_⟩
  split
  · refine ensures_bind.mpr ⟨none.delivered event, ?_⟩
    refine ((modest.meek event _).and (modest.keeps event _)).mono
      (fun _ both => both.1.lastFatal (none.delivered event))
      fun result after ⟨calmed, same⟩ => ⟨calmed.lastFatal (none.delivered event), ?_⟩
    intro harmless
    exact calmed.noneFatal (none.delivered_harmless (same.symm.trans harmless))
  · rw [ensures_bind]
    exact (upheld_noneFatal.aside (Action.hidden_core.log _ _ _).leaves process none).mono
      (fun _ last => last) fun _ _ none => ⟨none.lastFatal, fun _ => none⟩

/-- A fatal event leaves all monitors off, and others none the wiser. -/
theorem Pipeline.handle_leads (modest : Modest callback) (event : Event)
    : (handle (host.calling callback) event).Leads (LastFatal base) (NoneFatal base)
        (OffAfterFatal base) := by
  intro process none
  refine handle_ensures none.lastFatal ?_
  rw [ensures_bind]
  refine (deliver_ensures modest _ none).mono (fun _ last => last)
    fun result after ⟨last, harmless⟩ => ?_
  dsimp only
  split
  next =>
    rw [ensures_bind]
    refine ((Activation.meek_disableAll _ after).and
      (Activation.disableAll_ensures _ after)).mono (fun _ both => both.1.lastFatal last) ?_
    exact fun _ final ⟨calmed, watch⟩ =>
      .inr ⟨calmed.lastFatal last, congrArg Watch.enabled watch⟩
  next harmlessResult => exact .inl (harmless (Bool.eq_false_iff.mpr harmlessResult))

end Runs

-----------------------------------------------------------------------------------------
-- Sequential runs
-----------------------------------------------------------------------------------------

/-- Calls one after the other, with one callback for all of them. -/
def performEach (callback : Event → Action Event) : List (Host × Call) → Action Unit
  | [] => return ()
  | (host, call) :: rest => do
    call.perform (host.calling callback)
    performEach callback rest

section Sequential

variable {always inv : Process → Prop} (upheld : Upheld always inv)
  (stands : ∀ {before after}, Calmed before after → inv before → inv after)
include upheld stands

/-- A call that turns no monitor on keeps what captures keep, if the program's own code causes
no event.
-/
theorem Host.Quiet.maintains (quiet : host.Quiet)
    (trapped
      : ∀ signal cause process,
          inv process → process.enabled.signal = true →
            (Trap.capture (host.calling callback) signal cause).Ensures always (fun _ => inv)
              process)
    (panicked
      : ∀ cause process,
          inv process → process.enabled.panic = true →
            (Panic.capture (host.calling callback) cause).Ensures always (fun _ => inv)
              process)
    (reported
      : ∀ (report : UserReport) id process,
          inv process → process.enabled.user = true →
            (report.capture (host.calling callback) id).Ensures always (fun _ => inv)
              process)
    {call : Call} (enables : call.enables = false)
    : (call.perform (host.calling callback)).Maintains always inv := by
  have kept {α : Type} {action : Action α} (meek : action.Meek) : action.Maintains always inv :=
    .of_respects upheld.implied stands meek
  have upholds : (host.calling callback).Upholds always inv := {
    off := kept (Activation.meek_setEnabled_false _ .signal)
    declined := kept (Trap.meek_decline _)
    trapped := trapped
    panicked := panicked
    reported := reported
    onSignal := fun number signal => kept (quiet.onSignal number signal)
    onPanic := fun text => kept (quiet.onPanic text) }
  refine Call.maintains upheld upholds (fun on process => ?_)
    (fun enabling => absurd (enabling.symm.trans enables) (by decide)) ?_
  · have calmed : Calmed process { process with sigterm := on } := .of_eq rfl rfl
    exact stands calmed
  · intro sent _ process _ _
    refine .inr (kept (Action.Unwatched.meek ?_))
    exact .bind ((Activation.hidden_watch.handlers.setDisposition _ _ _).leaves) fun _ => .pure _

omit upheld stands in
/-- Calls that keep an invariant each keep it together, by induction on the calls left. -/
theorem performEach_maintains {steps : List (Host × Call)}
    (each
      : ∀ step ∈ steps,
          (step.2.perform (step.1.calling callback)).Maintains always inv)
    : (performEach callback steps).Maintains always inv := by
  induction steps with
  | nil => exact .pure _
  | cons step rest ih =>
      exact .bind (each step List.mem_cons_self) fun _ =>
        ih fun later member => each later (List.mem_cons_of_mem _ member)

end Sequential

section

variable {base : List Event} {steps : List (Host × Call)}
  (ordinary : ∀ step ∈ steps, step.1.Quiet ∧ step.2.enables = false)
include ordinary

/-- Nothing is delivered while nothing is on, whatever the callback would do. -/
theorem performEach_silent
    : (performEach callback steps).Maintains (Silent base) (Silent base) := by
  refine performEach_maintains fun step member => ?_
  obtain ⟨quiet, enables⟩ := ordinary step member
  refine quiet.maintains upheld_silent (fun calmed => calmed.silent) ?_ ?_ ?_ enables
  · exact fun _ _ _ silent on => absurd on (silent.off .signal)
  · exact fun _ _ silent on => absurd on (silent.off .panic)
  · exact fun _ _ _ silent on => absurd on (silent.off .user)

/-- Captures start while no event was fatal, since otherwise their monitor would be off. -/
theorem performEach_offAfterFatal (modest : Modest callback)
    : (performEach callback steps).Maintains (LastFatal base) (OffAfterFatal base) := by
  refine performEach_maintains fun step member => ?_
  obtain ⟨quiet, enables⟩ := ordinary step member
  have off
      : (Activation.setSignals (step.1.calling callback) false).Maintains (LastFatal base)
          (NoneFatal base) :=
    .of_respects upheld_noneFatal.implied (fun calmed => calmed.noneFatal)
      (Activation.meek_setEnabled_false _ .signal)
  have handled (event : Event)
      : (Pipeline.handle (step.1.calling callback) event).Leads (LastFatal base)
          (NoneFatal base) (OffAfterFatal base) := Pipeline.handle_leads modest event
  refine quiet.maintains upheld_offAfterFatal (fun calmed => calmed.offAfterFatal)
    ?_ ?_ ?_ enables
  · exact fun signal cause process holds on =>
      Trap.capture_leads (upheld_noneFatal.carried off) upheld_offAfterFatal.kept handled
        signal cause process (holds.noneFatal .signal on)
  · exact fun cause process holds on =>
      Panic.capture_leads (upheld_noneFatal.carried off) upheld_offAfterFatal.kept handled
        cause process (holds.noneFatal .panic on)
  · exact fun report id process holds on =>
      report.capture_leads (upheld_noneFatal.carried off) upheld_offAfterFatal.kept handled
        id process (holds.noneFatal .user on)

end

-----------------------------------------------------------------------------------------
-- Events that are not fatal
-----------------------------------------------------------------------------------------

/-- The callback changes the monitors only in a certain way, and leaves an event as fatal as it
was.
-/
def Changes (relation : Selection → Selection → Prop) (callback : Event → Action Event)
    : Prop :=
  ∀ event process,
    (callback event).Ensures (fun after => relation process.enabled after.enabled)
      (fun result after =>
        relation process.enabled after.enabled ∧ result.isFatal = event.isFatal)
      process

section Harmless

variable {relation : Selection → Selection → Prop} {found : Selection}
  (refl : ∀ selection, relation selection selection) (changes : Changes relation callback)

include refl in
/-- What decides nothing leaves the monitors on that were found on. -/
theorem found_aside {α : Type} {action : Action α} (aside : action.Aside)
    : action.Maintains (fun after => relation found after.enabled)
        (fun after => after.enabled = found) := by
  refine .of_leaves (fun process same => ?_) (fun {before after} same holds => ?_) aside
  · exact same ▸ refl process.enabled
  · have enabled : after.enabled = before.enabled := congrArg (·.1.enabled) same
    exact enabled.trans holds

/-- What decides nothing keeps the monitors related to those that were found on. -/
theorem related_aside {α : Type} {action : Action α} (aside : action.Aside)
    : action.Maintains (fun after => relation found after.enabled)
        (fun after => relation found after.enabled) := by
  refine .of_leaves (fun _ related => related) (fun {before after} same related => ?_) aside
  have enabled : after.enabled = before.enabled := congrArg (·.1.enabled) same
  exact enabled ▸ related

include refl changes

/-- Handling an event that is not fatal leaves the monitors to the callback. -/
theorem Pipeline.handle_harmless {event : Event} (harmless : event.isFatal = false)
    : (handle (host.calling callback) event).Leads
        (fun after => relation found after.enabled) (fun before => before.enabled = found)
        (fun after => relation found after.enabled) := by
  rintro process rfl
  have start := refl process.enabled
  refine handle_ensures start ?_
  have delivered
      : (deliver (host.calling callback) (shown process event)).Ensures
          (fun later => relation process.enabled later.enabled)
          (fun result later =>
            relation process.enabled later.enabled ∧ result.isFatal = false) process := by
    have marks := (shown_isFatal process event).trans harmless
    rw [deliver, ensures_bind, ensures_ask]
    refine ⟨start, ?_⟩
    split
    · refine ensures_bind.mpr ⟨start, ?_⟩
      exact (changes _ _).mono (fun _ related => related)
        fun result later ⟨related, same⟩ => ⟨related, same.trans marks⟩
    · rw [ensures_bind]
      exact (related_aside (Action.hidden_core.log _ _ _).leaves process start).mono
        (fun _ related => related) fun _ _ related => ⟨related, marks⟩
  refine ensures_bind.mpr ?_
  refine delivered.mono (fun _ related => related) fun result later ⟨related, same⟩ => ?_
  simp only [same]
  exact related

/-- A panic while no failure is being handled leaves the monitors to the callback. -/
theorem Panic.capture_harmless (cause : Cause) (idle : process.handling = false)
    : (capture (host.calling callback) cause).Ensures
        (fun after => relation process.enabled after.enabled)
        (fun _ after => relation process.enabled after.enabled) process := by
  have same {after : Process} (aside : after.core = process.core)
      : after.enabled = process.enabled ∧ after.handling = false :=
    ⟨congrArg (·.1.enabled) aside, (congrArg (·.1.handling) aside).trans idle⟩
  have start {after : Process} (aside : after.core = process.core)
      : relation process.enabled after.enabled := (same aside).1 ▸ refl after.enabled
  rw [capture, ensures_bind]
  refine ((Host.hidden_core.issue _).leaves process).mono (fun _ aside => start aside)
    fun id issued aside => ?_
  rw [ensures_bind, ensures_ask, (same aside).2]
  refine ⟨start aside, ?_⟩
  exact Leads.bind (Maintains.pure _) (fun _ =>
    .bind (found_aside refl Suspension.hidden_core.begin.leaves) fun suspension =>
      .bind (found_aside refl (Action.hidden_core.hear _).leaves) fun context =>
        .bind (Pipeline.handle_harmless refl changes rfl) fun _ =>
          related_aside (Action.hidden_core.resume suspension).leaves) issued (same aside).1

/-- A report that does not end the process leaves the monitors to the callback. -/
theorem UserReport.capture_harmless {report : UserReport} (goesOn : report.terminate = false)
    (id : EventId)
    : (report.capture (host.calling callback) id).Leads
        (fun after => relation found after.enabled) (fun before => before.enabled = found)
        (fun after => relation found after.enabled) := by
  unfold capture
  simp only [goesOn]
  split
  case' isTrue =>
    refine .bind (found_aside refl (.bind Suspension.hidden_core.begin.leaves fun _ => .pure _))
      fun suspension => ?_
  case' isFalse => refine .bind (Maintains.pure _) fun suspension => ?_
  all_goals
    refine .bind (Maintains.pure _) fun crashedDuring => ?_
    refine .bind (found_aside refl (Action.hidden_core.hear _).leaves) fun context => ?_
    refine .bind (Pipeline.handle_harmless refl changes rfl) fun _ => ?_
    split
    · exact related_aside (Action.hidden_core.resume _).leaves
    · exact Maintains.pure _

end Harmless

-----------------------------------------------------------------------------------------
-- From one event to the last
-----------------------------------------------------------------------------------------

/-- Handling an event calls the callback once, on an event as fatal as this one, and a fatal
event leaves no monitor on. While none is on no call delivers anything, until one turns a
monitor on; so in a run of sequential calls without such a one, a fatal event is the last. An
event that is not fatal and made no fatal note changes the monitors as the callback does and
not otherwise.
-/
theorem callback_called_until_fatal (callback : Event → Action Event)
    : (∀ (host : Host) (event : Event) (process : Process),
        process.callback = true
        → ∃ shown : Event,
            shown.isFatal = event.isFatal
            ∧ match (callback shown).run (process.record (.event shown false)) with
              | (none, stopped) =>
                (Pipeline.handle (host.calling callback) event).run process = (none, stopped)
              | (some result, after) =>
                ∃ final,
                  (Pipeline.handle (host.calling callback) event).run process
                    = (some result, final)
                  ∧ final.events = after.events
                  ∧ (result.isFatal = true → final.enabled = .none)
                  ∧ (result.isFatal = false → final = after))
      ∧ (∀ (steps : List (Host × Call)) (start : Process),
          (∀ step ∈ steps, step.1.Quiet ∧ step.2.enables = false)
          → start.enabled = .none
          → ∀ visited ∈ (performEach callback steps).states start,
              visited.enabled = .none ∧ visited.events = start.events)
      ∧ (∀ (steps : List (Host × Call)) (start : Process),
          Modest callback
          → (∀ step ∈ steps, step.1.Quiet ∧ step.2.enables = false)
          → (∀ visited ∈ (performEach callback steps).states start,
              ∃ new,
                visited.events = start.events ++ new
                ∧ ∀ event ∈ new.dropLast, event.isFatal = false)
            ∧ ∀ after,
                (performEach callback steps).run start = (some (), after)
                → ∃ new,
                    after.events = start.events ++ new
                    ∧ ((∀ event ∈ new, event.isFatal = false) ∨ after.enabled = .none))
      ∧ ∀ (relation : Selection → Selection → Prop) (host : Host) (process : Process),
          (∀ selection, relation selection selection)
          → Changes relation callback
          → (∀ cause,
              process.handling = false
              → ∀ visited ∈ (Panic.capture (host.calling callback) cause).states process,
                  relation process.enabled visited.enabled)
            ∧ ∀ (report : UserReport) (id : EventId),
                report.terminate = false
                → ∀ visited ∈ (report.capture (host.calling callback) id).states process,
                    relation process.enabled visited.enabled := by
  refine ⟨?once, ?silent, ?last, ?harmless⟩
  case once =>
    intro host event process registered
    exact ⟨Pipeline.shown process event, Pipeline.shown_isFatal process event,
      Pipeline.handle_calling host callback event registered⟩
  case silent =>
    intro steps start ordinary off visited member
    exact (performEach_silent ordinary start ⟨off, rfl⟩).mem_states ⟨off, rfl⟩ member
  case last =>
    intro steps start modest ordinary
    have none : NoneFatal start.events start := ⟨[], by simp, by simp⟩
    have ensures := performEach_offAfterFatal ordinary modest start (.inl none)
    refine ⟨fun visited member => ensures.mem_states none.lastFatal member, ?_⟩
    intro after ends
    rcases ensures.run_eq ends with ⟨new, events, harmless⟩ | ⟨⟨new, events, _⟩, off⟩
    · exact ⟨new, events, .inl harmless⟩
    · exact ⟨new, events, .inr off⟩
  case harmless =>
    intro relation host process refl changes
    refine ⟨fun cause idle visited member => ?_, fun report id goesOn visited member => ?_⟩
    · exact (Panic.capture_harmless refl changes cause idle).mem_states (refl _) member
    · exact (UserReport.capture_harmless refl changes goesOn id process rfl).mem_states (refl _)
        member

/-- A process whose monitors are all on. -/
def Process.watched : Process :=
  (((Call.setActive .all).perform .plain).run { Process.fresh with callback := true }).2

/-- After a trapped signal that was ignored before, a panic and a report come to nobody. -/
theorem callback_called_until_fatal_of_survived_signal
    : let steps : List (Host × Call) := [
        (.plain, .raise .pipe { code := 0 }), (.plain, .panic {}), (.plain, .submit { name := "" })]
      Modest pure
      ∧ (∀ step ∈ steps, step.1.Quiet ∧ step.2.enables = false)
      ∧ ∃ after,
          (performEach pure steps).run .watched = (some (), after)
          ∧ after.events.map Event.isFatal = [true]
          ∧ ∃ new,
              after.events = Process.watched.events ++ new
              ∧ ((∀ event ∈ new, event.isFatal = false) ∨ after.enabled = .none) := by
  intro steps
  have modest : Modest pure := ⟨fun _ process => .refl process, fun _ _ => rfl⟩
  have quiet : Host.plain.Quiet :=
    ⟨fun _ _ => Action.Aside.meek (.modify fun process => Process.core_record rfl process),
      fun _ => Action.Aside.meek (.modify fun process => Process.core_record rfl process)⟩
  have ordinary : ∀ step ∈ steps, step.1.Quiet ∧ step.2.enables = false := by
    simp [steps, quiet, Call.enables]
  have ends : ((performEach pure steps).run .watched).1 = some () := by decide +kernel
  have fatal : ((performEach pure steps).run .watched).2.events.map Event.isFatal = [true] := by
    decide +kernel
  have ended
      : (performEach pure steps).run .watched
        = (some (), ((performEach pure steps).run .watched).2) := Prod.ext ends rfl
  exact ⟨modest, ordinary, _, ended, fatal,
    ((callback_called_until_fatal pure).2.2.1 steps .watched modest ordinary).2 _ ended⟩

/-- A callback that turns the monitor of reports off. -/
def retire (event : Event) : Action Event := do
  let _ ← Activation.setEnabled .plain false .user
  return event

/-- An event that is neither fatal nor noted as such can leave fewer monitors on than there
were, when its callback turns one off.
-/
theorem harmless_event_leaves_fewer_monitors
    : Modest retire
      ∧ Process.watched.enabled = .all ∧ Process.watched.handling = false
      ∧ ∃ after,
          ((Call.submit { name := "" }).perform (Host.plain.calling retire)).run .watched
            = (some (), after)
          ∧ after.events.map Event.isFatal = [false]
          ∧ after.handling = false
          ∧ after.enabled = { signal := true, panic := true } := by
  have modest : Modest retire := by
    refine ⟨fun event => ?_, fun event process => ?_⟩
    · exact .bind (Activation.meek_setEnabled_false .plain .user) fun _ process => .refl process
    · rw [retire, ensures_bind]
      exact (Activation.setEnabled_false_ensures .plain process .user).mono
        (fun _ _ => trivial) fun _ _ _ => rfl
  have ends
      : (((Call.submit { name := "" }).perform (Host.plain.calling retire)).run .watched).1
        = some () := by
    decide +kernel
  refine ⟨modest, by decide +kernel, by decide +kernel, _, Prod.ext ends rfl, ?_, ?_, ?_⟩
  all_goals decide +kernel

end CrashCapture
