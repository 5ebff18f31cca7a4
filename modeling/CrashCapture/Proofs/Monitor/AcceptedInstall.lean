import CrashCapture.Proofs.Monitor.RefusedInstall

/-! A configuration that is accepted. Turning monitors on and off touches none of the settings,
so those of the configuration are in force once it is installed, whatever they were before.
-/

namespace CrashCapture

open Steps

variable {process prepared : Process}

/-- A computation that changes no setting, whatever others do in between. -/
abbrev Action.KeepsSettings {α : Type} (action : Action α) : Prop :=
  action.NeverTouches Process.settings

-----------------------------------------------------------------------------------------
-- Switching monitors
-----------------------------------------------------------------------------------------

/-- No setting is among what switching monitors changes. -/
theorem Activation.hidden_settings : Hidden Process.settings where
  recorded _ _ _ := rfl
  mapping _ _ _ _ _ := rfl
  registered _ _ _ := rfl
  disposition _ _ _ := rfl
  table _ _ := rfl

/-- No setting is among what is said, logged and heard. -/
theorem Action.hidden_settings : Hidden Process.settings :=
  Activation.hidden_settings.stack.toHidden

/-- No setting is among the identifiers. -/
theorem Host.hidden_settings : Hidden Process.settings where
  issued _ _ := rfl
  kept _ _ := rfl

/-- No setting is among what replacing the hook changes. -/
theorem PanicHook.hidden_settings : Hidden Process.settings where
  toHidden := Action.hidden_settings
  hooks _ _ _ _ := rfl

namespace Activation

/-- No setting is a flag of a monitor. -/
theorem flagHidden_settings (monitor : Monitor) : FlagHidden monitor Process.settings :=
  fun _ _ => rfl

/-- Switching one monitor changes no setting, for each of the three. -/
theorem keepsSettings_setEnabled (host : Host) (on : Bool) (monitor : Monitor)
    : (setEnabled host on monitor).KeepsSettings := by
  cases monitor with
  | signal => exact hidden_settings.setSignals Host.hidden_settings (flagHidden_settings _) host on
  | panic => exact PanicHook.hidden_settings.setPanics (flagHidden_settings _) host on
  | user => exact .bind ((flagHidden_settings _).swap on) fun _ => .pure _

/-- One monitor after the other, by induction on those that are left. -/
theorem keepsSettings_setEach (host : Host) (requested : Selection) (monitors : List Monitor)
    : (setEach host requested monitors).KeepsSettings := by
  induction monitors with
  | nil => exact .pure _
  | cons monitor rest ih =>
      refine .bind (keepsSettings_setEnabled host _ monitor) fun result => ?_
      cases result with
      | ok _ => exact ih
      | error failure => exact .bind (Action.hidden_settings.diagnose _ _ _) fun _ => ih

/-- Switching to a selection changes no setting. -/
theorem keepsSettings_setActive (host : Host) (requested : Selection)
    : (setActive host requested).KeepsSettings :=
  .bind (keepsSettings_setEach host requested _) fun _ =>
    .bind (.ask _) fun _ => .bind (Action.hidden_settings.diagnose _ _ _) fun _ => .pure _

end Activation

-----------------------------------------------------------------------------------------
-- The whole configuration
-----------------------------------------------------------------------------------------

namespace Config

/-- Once the threads are reserved nothing is refused any more, and the monitors that are
switched leave the settings as they are.
-/
theorem install_keeps_prepared_settings {config : Config} (host : Host)
    (ends : config.prepare.run process = (some (.ok ()), prepared))
    : ∃ active after,
        (config.install host).run process = (some (.ok active), after)
        ∧ after.settings = prepared.settings := by
  obtain ⟨active, after, installed⟩ := install_run_of_prepared host ends
  refine ⟨active, after, installed, ?_⟩
  rw [install, run_bind, ends] at installed
  refine (NeverTouches.leaves ?_ prepared).run_eq installed
  refine .bind (Activation.keepsSettings_setActive host config.monitors) fun found => ?_
  dsimp only
  split
  all_goals
    exact .bind (Action.hidden_settings.diagnose _ _ _) fun _ =>
      .bind (Action.hidden_settings.diagnose _ _ _) fun _ => .pure _

/-- Once a configuration is accepted its settings are in force, whatever they were before. -/
theorem install_sets_settings {config : Config} {threads : List ThreadId} (host : Host)
    (shows : process.reserved.Shows threads)
    (fit : Reservation.Fit threads.toFinset config.reserved)
    : ∃ active after,
        (config.install host).run process = (some (.ok active), after)
        ∧ after.settings = config.settings := by
  have start : (process.putSettings config.settings).reserved.Shows threads := shows
  obtain ⟨result, prepared, reserved, ends, _, _, granted⟩ :=
    reserveEach_run config.reserved start
  obtain ⟨settings, _⟩ := reserveEach_keeps ends
  rw [← prepare_run] at ends
  cases result with
  | ok _ =>
      obtain ⟨active, after, installed, same⟩ := install_keeps_prepared_settings host ends
      exact ⟨active, after, installed, same.trans settings⟩
  | error failure =>
      obtain ⟨front, stops, _⟩ := granted
      exact absurd fit stops.not_fit

end Config

end CrashCapture
