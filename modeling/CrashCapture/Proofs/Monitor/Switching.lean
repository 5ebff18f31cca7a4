import CrashCapture.Proofs.Monitor.Aside

/-! What becomes of the monitors' flags. Turning monitors off always comes to an end, leaves
nothing on, and delivers no event; the note of a fatal failure turns them off when it is the
second one.
-/

namespace CrashCapture

open Steps

variable {host : Host} {process : Process}

-----------------------------------------------------------------------------------------
-- Fewer monitors, no events
-----------------------------------------------------------------------------------------

/-- Every monitor that is chosen here is chosen there. -/
def Selection.Below (here there : Selection) : Prop :=
  ∀ monitor, here.contains monitor = true → there.contains monitor = true

namespace Selection

/-- A selection is below itself. -/
theorem Below.refl (selection : Selection) : selection.Below selection := fun _ chosen => chosen

/-- Being below carries over, since every monitor is followed through both steps. -/
theorem Below.trans {a b c : Selection} (first : a.Below b) (second : b.Below c)
    : a.Below c := fun monitor chosen => second monitor (first monitor chosen)

/-- Nothing but the empty selection is below it, monitor by monitor. -/
theorem Below.eq_none {selection : Selection} (below : selection.Below .none)
    : selection = .none := by
  have off (monitor : Monitor) : selection.contains monitor = false :=
    Bool.eq_false_iff.mpr fun chosen => by cases monitor <;> cases below _ chosen
  obtain ⟨signal, panic, user⟩ := selection
  obtain rfl : signal = false := off .signal
  obtain rfl : panic = false := off .panic
  obtain rfl : user = false := off .user
  rfl

/-- Taking a monitor out only goes down: it is gone, and every other one stays. -/
theorem put_false_below (selection : Selection) (monitor : Monitor)
    : (selection.put false monitor).Below selection := by
  intro other chosen
  cases monitor <;> cases other <;> first | exact chosen | cases chosen

/-- A monitor that is off already is left as it is. -/
theorem put_false_eq_self {selection : Selection} {monitor : Monitor}
    (off : selection.contains monitor = false)
    : selection.put false monitor = selection := by
  obtain ⟨signal, panic, user⟩ := selection
  cases monitor <;> cases off <;> rfl

end Selection

/-- No event was delivered in between, and no monitor turned on. -/
structure Calmed (before after : Process) : Prop where
  events : after.events = before.events
  enabled : after.enabled.Below before.enabled

/-- A process that stays as it is has become calm. -/
theorem Calmed.refl (process : Process) : Calmed process process := ⟨rfl, .refl _⟩

/-- Calm carries over from one stretch of a run to the next, part by part. -/
theorem Calmed.trans {a b c : Process} (first : Calmed a b) (second : Calmed b c)
    : Calmed a c :=
  ⟨second.events.trans first.events, second.enabled.trans first.enabled⟩

/-- Where the same monitors stay on and the same events are on record, all is calm. -/
theorem Calmed.of_eq {before after : Process} (events : after.events = before.events)
    (enabled : after.enabled = before.enabled)
    : Calmed before after := ⟨events, enabled ▸ .refl _⟩

/-- A process that goes by the same as before is calm. -/
theorem Calmed.of_watch {before after : Process} (same : after.watch = before.watch)
    : Calmed before after := .of_eq (congrArg Watch.events same) (congrArg Watch.enabled same)

/-- A computation that delivers no event and turns no monitor on. -/
abbrev Action.Meek {α : Type} (action : Action α) : Prop := action.Respects Calmed

/-- What only installs or removes handlers is meek, since monitors go by none of it. -/
theorem Action.Unwatched.meek {α : Type} {action : Action α} (unwatched : action.Unwatched)
    : action.Meek := fun process =>
  (unwatched process).mono (fun _ same => .of_watch same) fun _ _ same => .of_watch same

/-- What decides nothing is meek. -/
theorem Action.Aside.meek {α : Type} {action : Action α} (aside : action.Aside)
    : action.Meek := aside.unwatched.meek

/-- Meek parts make a meek whole, as calm carries over. -/
theorem Action.Meek.bind {α β : Type} {first : Action α} {more : α → Action β}
    (left : first.Meek) (right : ∀ value, (more value).Meek)
    : (first >>= more).Meek := Respects.bind Calmed.trans left right

-----------------------------------------------------------------------------------------
-- Turning monitors off
-----------------------------------------------------------------------------------------

namespace Activation

/-- Clearing a flag delivers nothing and turns nothing on. -/
theorem calmed_put_false (process : Process) (monitor : Monitor)
    : Calmed process { process with enabled := process.enabled.put false monitor } :=
  ⟨rfl, process.enabled.put_false_below monitor⟩

/-- Clearing the flag of a monitor and removing what it installed changes no other flag. -/
theorem setEnabled_false_ensures (host : Host) (process : Process) (monitor : Monitor)
    : (setEnabled host false monitor).Ensures (Calmed process)
        (fun _ after =>
          after.watch = { process.watch with enabled := process.enabled.put false monitor })
        process := by
  have cleared := calmed_put_false process monitor
  cases monitor with
  | user => exact ⟨cleared, rfl⟩
  | signal =>
      rw [setEnabled, setSignals, ensures_bind, ensures_swap]
      refine ⟨cleared, ?_⟩
      split
      · rfl
      · refine ensures_bind.mpr ?_
        exact (unwatched_uninstallSignals host _).mono
          (fun _ same => cleared.trans (.of_watch same)) fun _ _ same => same
  | panic =>
      rw [setEnabled, setPanics, ensures_bind, ensures_ask]
      refine ⟨.refl process, ?_⟩
      split
      next off =>
        have same : process.enabled.put false .panic = process.enabled :=
          Selection.put_false_eq_self off
        rw [same]
        rfl
      next =>
        refine ensures_bind.mpr ?_
        rw [ensures_swap]
        refine ⟨cleared, ensures_bind.mpr ?_⟩
        exact ((PanicHook.hidden_watch.remove host).leaves _).mono
          (fun _ same => cleared.trans (.of_watch same)) fun _ _ same => same

/-- Monitors are turned off one after the other, by induction on those left. -/
theorem disableEach_ensures (host : Host) (process : Process) (monitors : List Monitor)
    : (disableEach host monitors).Ensures (Calmed process)
        (fun _ after =>
          after.watch = { process.watch with
            enabled := monitors.foldl (fun left monitor => left.put false monitor)
              process.enabled })
        process := by
  induction monitors generalizing process with
  | nil => rfl
  | cons monitor rest ih =>
      rw [disableEach, ensures_bind]
      refine (setEnabled_false_ensures host process monitor).mono (fun _ calmed => calmed)
        fun result after same => ?_
      have calmed : Calmed process after :=
        .trans (calmed_put_false process monitor) (.of_watch same)
      have onward (found : Process) (unchanged : found.watch = after.watch)
          : (disableEach host rest).Ensures (Calmed process)
              (fun _ after =>
                after.watch = { process.watch with
                  enabled := (monitor :: rest).foldl (fun left monitor => left.put false monitor)
                    process.enabled })
              found := by
        have start := unchanged.trans same
        refine (ih found).mono
          (fun _ further => (calmed.trans (.of_watch unchanged)).trans further)
          fun _ last final => ?_
        have enabled : found.enabled = process.enabled.put false monitor :=
          congrArg Watch.enabled start
        rw [final, start, enabled]
        rfl
      cases result with
      | ok _ => exact onward after rfl
      | error failure =>
          rw [ensures_bind]
          exact ((Action.hidden_watch.log _ _ _).leaves after).mono
            (fun _ unchanged => calmed.trans (.of_watch unchanged))
            fun _ found unchanged => onward found unchanged

/-- Nothing is on in the end, and nothing else that decides has changed. -/
theorem disableAll_ensures (host : Host) (process : Process)
    : (disableAll host).Ensures (Calmed process)
        (fun _ after => after.watch = { process.watch with enabled := .none }) process :=
  disableEach_ensures host process Monitor.all

/-- Turning all monitors off is meek, since none is left to be on. -/
theorem meek_disableAll (host : Host) : (disableAll host).Meek := fun process =>
  (disableAll_ensures host process).mono (fun _ calmed => calmed) fun _ after same => by
    have enabled : after.enabled = .none := congrArg Watch.enabled same
    refine ⟨congrArg Watch.events same, fun monitor chosen => ?_⟩
    rw [enabled] at chosen
    cases monitor <;> cases chosen

/-- Turning a single monitor off is meek as well. -/
theorem meek_setEnabled_false (host : Host) (monitor : Monitor)
    : (setEnabled host false monitor).Meek := fun process =>
  (setEnabled_false_ensures host process monitor).mono (fun _ calmed => calmed)
    fun _ _ same => .trans (calmed_put_false process monitor) (.of_watch same)

end Activation

/-- To decline a signal is to turn its monitor off and to note it, which is meek. -/
theorem Trap.meek_decline (host : Host) : (decline host).Meek := by
  have swap : (Activation.swap .signal false).Meek := fun process =>
    ⟨Activation.calmed_put_false process _, Activation.calmed_put_false process _⟩
  exact .bind swap fun _ =>
    .bind (Activation.unwatched_uninstallSignals host).meek fun _ =>
      Action.Unwatched.meek (.modify fun _ => rfl)

-----------------------------------------------------------------------------------------
-- Noting a fatal failure
-----------------------------------------------------------------------------------------

/-- What is on record once a fatal failure was noted: a second one turns every monitor off. -/
def Watch.noted (watch : Watch) : Watch :=
  if watch.handling then { watch with crashedDuring := true, enabled := .none }
  else { watch with handling := true }

/-- The note of a fatal failure answers whether one was noted before, and leaves on record what
the note makes of it; a second one turns every monitor off after it is logged.
-/
theorem Pipeline.notifyFatal_ensures (host : Host) (process : Process)
    (inSignalHandler : Bool)
    : (notifyFatal host inSignalHandler).Ensures (Calmed process)
        (fun again after => again = process.handling ∧ after.watch = process.watch.noted)
        process := by
  unfold notifyFatal
  dsimp only
  split
  case' isTrue =>
    rw [ensures_bind, ensures_modify]
    refine ⟨.of_watch rfl, ?_⟩
  all_goals
    rw [ensures_bind, ensures_exchange]
    refine ⟨.of_eq rfl rfl, ?_⟩
    cases was : process.handling with
    | false =>
        refine ⟨rfl, ?_⟩
        simp [Watch.noted, Process.watch, was, Process.events]
    | true =>
        refine ensures_bind.mpr ⟨.of_eq rfl rfl, ensures_bind.mpr ?_⟩
        have calmed {found : Process} {watch : Watch} (same : found.watch = watch)
            (events : watch.events = process.events)
            (enabled : watch.enabled = process.enabled)
            : Calmed process found :=
          .of_eq ((congrArg Watch.events same).trans events)
            ((congrArg Watch.enabled same).trans enabled)
        refine ((Action.hidden_watch.log _ _ _).leaves _).mono (fun _ same => calmed same rfl rfl)
          fun _ found same => ?_
        rw [ensures_bind]
        refine (Activation.disableAll_ensures host found).mono
          (fun _ further => (calmed same rfl rfl).trans further) fun _ after final => ⟨rfl, ?_⟩
        rw [final, same]
        simp [Watch.noted, Process.watch, was, Process.events]

-----------------------------------------------------------------------------------------
-- Coming to an end
-----------------------------------------------------------------------------------------

/-! Turning off comes to an end, whatever is installed and whatever is refused. -/

namespace Handlers

/-- Setting a disposition ends, refused or not. -/
theorem ends_setDisposition (refusal : FatalSignal → Option Errno) (signal : FatalSignal)
    (new : Disposition)
    : (setDisposition refusal signal new).Ends := by
  unfold setDisposition
  split
  · exact .pure _
  · exact .exchange _ _

/-- One slot after the other is emptied and put back or logged, by induction on those left. -/
theorem ends_restoreSlots (host : Host) (indices : List (Fin savedCapacity))
    : (restoreSlots host indices).Ends := by
  induction indices with
  | nil => exact .pure _
  | cons index rest ih =>
      refine .bind (.exchange _ _) fun slot => ?_
      cases slot with
      | none => exact ih
      | some kept =>
          refine .bind (ends_setDisposition _ _ _) fun result => ?_
          cases result with
          | ok _ => exact ih
          | error errno => exact .bind (.modify _) fun _ => ih

/-- Restoring goes over the slots once, after the counter is taken. -/
theorem ends_restore (host : Host) : (restore host).Ends :=
  .bind (.exchange _ _) fun _ => ends_restoreSlots host _

end Handlers

/-- Registering a stack ends, refused or not. -/
theorem AltStack.ends_register (host : Host) (stack : Option Address)
    : (register host stack).Ends := by
  unfold register
  split
  · exact .pure _
  · exact .exchange _ _

/-- Providing a stack ends: with the one that is mapped already, with a new one, or with the
refusal to map or to guard one.
-/
theorem AltStack.ends_provide (host : Host) : (provide host).Ends := by
  refine .bind (.exchange _ _) fun mapped => ?_
  cases mapped with
  | some stack => exact .pure _
  | none =>
      cases host.kernel.mapStack with
      | some errno => exact .pure _
      | none =>
          refine .bind (.exchange _ _) fun stack => ?_
          cases host.kernel.guardStack with
          | some errno => exact .bind (.modify _) fun _ => .pure _
          | none => exact .bind (.modify _) fun _ => .bind (.modify _) fun _ => .pure _

/-- Installing a stack ends, provided and registered or refused at either. -/
theorem AltStack.ends_install (host : Host) : (install host).Ends := by
  refine .bind (ends_provide host) fun provided => ?_
  cases provided with
  | error failure => exact .pure _
  | ok stack =>
      refine .bind (ends_register host _) fun registered => ?_
      cases registered with
      | error errno => exact .pure _
      | ok previous =>
          dsimp only
          split
          · exact .bind (.modify _) fun _ => .pure _
          · exact .pure _

/-- Releasing a stack ends, whether there is one and whoever runs on it. -/
theorem AltStack.ends_release (host : Host) : (release host).Ends := by
  refine .bind (.exchange _ _) fun mapped => ?_
  cases mapped with
  | none => exact .pure _
  | some stack =>
      refine .bind (.exchange _ _) fun onStack => ?_
      split
      · exact .pure _
      · exact .bind (.exchange _ _) fun _ => .bind (ends_register host _) fun _ => .modify _

/-- Removing the hook ends, whether an earlier one was kept or not. -/
theorem PanicHook.ends_remove (host : Host) : (remove host).Ends := by
  refine .bind (.exchange _ _) fun installed => ?_
  split
  · exact .pure _
  · refine .bind (.exchange _ _) fun free => ?_
    split
    · exact .pure _
    · refine .bind (.exchange _ _) fun _ => .bind (.exchange _ _) fun previous => ?_
      cases previous with
      | none => exact .bind (.modify _) fun _ => .modify _
      | some hook => exact .bind (.modify _) fun _ => .bind (.modify _) fun _ => .modify _

/-- Turning a monitor off ends, for each of the three. -/
theorem Activation.ends_setEnabled_false (host : Host) (monitor : Monitor)
    : (setEnabled host false monitor).Ends := by
  cases monitor with
  | user => exact .bind (.exchange _ _) fun _ => .pure _
  | signal =>
      refine .bind (.exchange _ _) fun was => ?_
      split
      · exact .pure _
      · exact .bind (.bind (Handlers.ends_restore host) fun _ => AltStack.ends_release host)
          fun _ => .pure _
  | panic =>
      refine .bind (.exchange _ _) fun was => ?_
      split
      · exact .pure _
      · exact .bind (.exchange _ _) fun _ =>
          .bind (PanicHook.ends_remove host) fun _ => .pure _

/-- A refusal to turn one monitor off is logged and the next one follows, by induction on those
left.
-/
theorem Activation.ends_disableEach (host : Host) (monitors : List Monitor)
    : (disableEach host monitors).Ends := by
  induction monitors with
  | nil => exact .pure _
  | cons monitor rest ih =>
      refine .bind (ends_setEnabled_false host monitor) fun result => ?_
      cases result with
      | ok _ => exact ih
      | error failure => exact .bind (.modify _) fun _ => ih

/-- Turning all monitors off ends. -/
theorem Activation.ends_disableAll (host : Host) : (disableAll host).Ends :=
  ends_disableEach host _

end CrashCapture
