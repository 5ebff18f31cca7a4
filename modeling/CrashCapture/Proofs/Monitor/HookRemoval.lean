import CrashCapture.Proofs.Monitor.HookForwarding
import CrashCapture.Proofs.Monitor.StackOwner

/-! When the monitor's hook goes. Turning the panic monitor off in ordinary code takes the hook
out and puts the original one back. Where the hook cannot be replaced it stays and only hands
panics on, and since turning off a monitor that is off does nothing, it stays until the monitor
was on once more.
-/

namespace CrashCapture

open Steps

variable {host : Host} {process before : Process} {original : PanicHook}

namespace Hooked

/-- Without the monitor's hook, the original one is registered and nothing is on record. -/
theorem of_uninstalled (hooked : Hooked original process)
    (gone : process.hookInstalled = false)
    : process.hook = original ∧ process.previousHook = none := by
  have other : process.hook ≠ .capture := fun registered =>
    Bool.false_ne_true (gone.symm.trans (hooked.registered.mpr registered))
  exact ⟨hooked.standing other,
    Option.not_isSome_iff_eq_none.mp fun recorded => other (hooked.recorded.mpr recorded)⟩

/-- The monitor's hook stands in front of the original one. -/
theorem of_installed (hooked : Hooked original process) (installed : process.hookInstalled = true)
    : process.hook = .capture ∧ process.previousHook = some original := by
  have registered := hooked.registered.mp installed
  obtain ⟨previous, found⟩ := Option.isSome_iff_exists.mp (hooked.recorded.mp registered)
  exact ⟨registered, found.trans (congrArg some (hooked.earlier previous found).1)⟩

end Hooked

/-- Calls that turn the panic monitor off. -/
def Call.disablesPanics : Call → Bool
  | .setEnabled monitor on => monitor = .panic && !on
  | .setActive requested => !requested.panic
  | .disableAll => true
  | _ => false

-----------------------------------------------------------------------------------------
-- Whether the hook may be replaced
-----------------------------------------------------------------------------------------

/-- The hook, and all that decides whether it may be replaced. -/
def Process.hookState (process : Process) : PanicState × Bool :=
  (process.panicState, process.handling)

theorem PanicHook.isFree_eq {after : Process} (same : after.hookState = process.hookState)
    : isFree host after = isFree host process := by
  have panics : (after.threads host.thread).panics = (process.threads host.thread).panics :=
    congrFun (congrArg (·.1.panics) same) host.thread
  have handling : after.handling = process.handling := congrArg Prod.snd same
  rw [isFree, isFree, panics, handling]

/-- Stacks and handlers show nothing of whether the hook may be replaced. -/
theorem Activation.hidden_hookState : Hidden Process.hookState where
  recorded _ _ _ := rfl
  mapping _ _ _ _ _ := rfl
  registered process thread stack :=
    Prod.ext (hidden_panicState.registered process thread stack) rfl
  disposition _ _ _ := rfl
  table _ _ := rfl

theorem Action.hidden_hookState : Hidden Process.hookState :=
  Activation.hidden_hookState.stack.toHidden

theorem Host.hidden_hookState : Hidden Process.hookState where
  issued _ _ := rfl
  kept _ _ := rfl

/-- The other monitors have nothing to do with the hook. -/
theorem Activation.setEnabled_leaves (host : Host) (on : Bool) {monitor : Monitor}
    (other : monitor ≠ .panic)
    : (setEnabled host on monitor).Leaves Process.hookState := by
  cases monitor with
  | signal =>
      exact (hidden_hookState.setSignals Host.hidden_hookState (fun _ _ => rfl) host on).leaves
  | panic => exact absurd rfl other
  | user => exact .bind (.exchange fun _ => rfl) fun _ => .pure _

-----------------------------------------------------------------------------------------
-- Turning the panic monitor off
-----------------------------------------------------------------------------------------

/-- Before the panic monitor's turn: the hook is as it was and may be replaced. -/
structure Awaiting (original : PanicHook) (host : Host) (before process : Process) : Prop where
  hooked : Hooked original process
  free : PanicHook.isFree host process = true
  same : process.hooks = before.hooks

/-- After its turn: the monitor is off, and its hook is still installed only where it was off
before.
-/
structure TurnedOff (original : PanicHook) (before process : Process) : Prop where
  hooked : Hooked original process
  off : process.enabled.panic = false
  installed
    : process.hookInstalled = true
      ↔ before.enabled.panic = false ∧ before.hookInstalled = true

theorem Awaiting.of_hookState {after : Process} (same : after.hookState = process.hookState)
    (awaiting : Awaiting original host before process)
    : Awaiting original host before after where
  hooked := awaiting.hooked.of_hooks (congrArg (·.1.hooks) same)
  free := (PanicHook.isFree_eq same).trans awaiting.free
  same := (congrArg (·.1.hooks) same).trans awaiting.same

theorem TurnedOff.of_hookState {after : Process} (same : after.hookState = process.hookState)
    (turned : TurnedOff original before process)
    : TurnedOff original before after := by
  have hooks : after.hooks = process.hooks := congrArg (·.1.hooks) same
  have installed : after.hookInstalled = process.hookInstalled := congrArg Hooks.installed hooks
  exact ⟨turned.hooked.of_hooks hooks, (congrArg Hooks.enabled hooks).trans turned.off,
    installed ▸ turned.installed⟩

/-- In ordinary code the hook is taken out. -/
theorem PanicHook.remove_removes (free : isFree host process = true)
    : (remove host).Ensures (fun _ => True)
        (fun _ after => after.hookInstalled = false ∧ after.enabled = process.enabled)
        process := by
  rw [remove, ensures_bind, ensures_ask]
  refine ⟨trivial, ?_⟩
  cases installed : process.hookInstalled with
  | false => exact ⟨installed, rfl⟩
  | true =>
      rw [Bool.not_true, if_neg Bool.false_ne_true, ensures_bind, ensures_ask, free]
      refine ⟨trivial, ?_⟩
      refine ensures_bind.mpr ⟨trivial, ensures_bind.mpr ⟨trivial, ?_⟩⟩
      have marked (found : Process) (enabled : found.enabled = process.enabled)
          : (markInstalled false >>= fun _ =>
              Action.diagnose .debug .panicMonitor "Restored previous panic hook").Ensures
                (fun _ => True)
                (fun _ after => after.hookInstalled = false ∧ after.enabled = process.enabled)
                found :=
        ensures_bind.mpr ⟨trivial,
          ((Action.hidden_fittings.diagnose _ _ _).leaves _).mono (fun _ _ => trivial)
            fun _ _ same =>
              ⟨congrArg Fittings.hookInstalled same,
                (congrArg Fittings.enabled same).trans enabled⟩⟩
      dsimp only [id_def]
      cases process.previousHook with
      | none => exact marked _ rfl
      | some hook => exact ensures_bind.mpr ⟨trivial, marked _ rfl⟩

/-- Turning the panic monitor off takes its hook out, unless the monitor was off already. -/
theorem Awaiting.setPanics (awaiting : Awaiting original host before process)
    : (Activation.setPanics host false).Ensures (fun _ => True)
        (fun _ => TurnedOff original before) process := by
  have enabled : process.enabled.panic = before.enabled.panic :=
    congrArg Hooks.enabled awaiting.same
  have installed : process.hookInstalled = before.hookInstalled :=
    congrArg Hooks.installed awaiting.same
  rw [Activation.setPanics, ensures_bind, ensures_ask]
  refine ⟨trivial, ?_⟩
  split
  next off =>
    refine ⟨awaiting.hooked, off, ?_⟩
    rw [installed, ← enabled, off]
    simp
  next on =>
    refine ensures_bind.mpr ⟨trivial, ensures_bind.mpr ?_⟩
    have free : PanicHook.isFree host
        { process with enabled := process.enabled.put false .panic } = true := awaiting.free
    refine ((PanicHook.remove_removes free).and
      (PanicHook.remove_hooked awaiting.hooked.switched_off rfl)).mono (fun _ _ => trivial) ?_
    rintro _ after ⟨⟨gone, flags⟩, hooked⟩
    refine ⟨hooked, congrArg Selection.panic flags, ?_⟩
    rw [gone, ← enabled]
    simp [on]

-----------------------------------------------------------------------------------------
-- The other monitors' turns
-----------------------------------------------------------------------------------------

section Turns

/-- What leaves the hook alone keeps it while it awaits its turn. -/
theorem awaiting_maintains {α : Type} {action : Action α}
    (leaves : action.Leaves Process.hookState)
    : action.Maintains (fun _ => True) (Awaiting original host before) :=
  .of_leaves (fun _ _ => trivial) Awaiting.of_hookState leaves

/-- What leaves the hook alone keeps it after its turn. -/
theorem turnedOff_maintains {α : Type} {action : Action α}
    (leaves : action.Leaves Process.hookState)
    : action.Maintains (fun _ => True) (TurnedOff original before) :=
  .of_leaves (fun _ _ => trivial) TurnedOff.of_hookState leaves

variable {monitor : Monitor} {rest : List Monitor} {requested : Selection}
  {first between last : Process → Prop}

/-- After a monitor's turn come the others, whatever its turn ends with. -/
theorem setEach_leads
    (turn
      : (Activation.setEnabled host (requested.contains monitor) monitor).Leads (fun _ => True)
          first between)
    (kept
      : ∀ text,
          (Action.diagnose .warn .monitors text).Maintains (fun _ => True) between)
    (others : (Activation.setEach host requested rest).Leads (fun _ => True) between last)
    : (Activation.setEach host requested (monitor :: rest)).Leads (fun _ => True) first last := by
  refine Leads.bind turn fun result => ?_
  cases result with
  | ok _ => exact others
  | error failure => exact Leads.bind (kept _) fun _ => others

theorem disableEach_leads
    (turn : (Activation.setEnabled host false monitor).Leads (fun _ => True) first between)
    (kept : ∀ text, (Action.log .error .monitors text).Maintains (fun _ => True) between)
    (others : (Activation.disableEach host rest).Leads (fun _ => True) between last)
    : (Activation.disableEach host (monitor :: rest)).Leads (fun _ => True) first last := by
  refine Leads.bind turn fun result => ?_
  cases result with
  | ok _ => exact others
  | error failure => exact Leads.bind (kept _) fun _ => others

theorem setActive_turnsOff (unwanted : requested.panic = false)
    : (Activation.setActive host requested).Leads (fun _ => True)
        (Awaiting original host before) (TurnedOff original before) := by
  have told (text : String) : (Action.diagnose .warn .monitors text).Leaves Process.hookState :=
    (Action.hidden_hookState.diagnose _ _ _).leaves
  have turn
      : (Activation.setEnabled host (requested.contains .panic) .panic).Leads (fun _ => True)
          (Awaiting original host before) (TurnedOff original before) := by
    rw [show requested.contains .panic = false from unwanted]
    exact fun process awaiting => awaiting.setPanics
  refine Leads.bind ?_ fun _ => Leads.bind (Maintains.ask (fun _ _ => trivial) _) fun active =>
    Leads.bind (turnedOff_maintains (Action.hidden_hookState.diagnose _ _ _).leaves) fun _ =>
      Maintains.pure active
  refine setEach_leads (awaiting_maintains (Activation.setEnabled_leaves host _ nofun))
    (fun text => awaiting_maintains (told text)) ?_
  refine setEach_leads turn (fun text => turnedOff_maintains (told text)) ?_
  refine setEach_leads (turnedOff_maintains (Activation.setEnabled_leaves host _ nofun))
    (fun text => turnedOff_maintains (told text)) (Maintains.pure _)

theorem disableAll_turnsOff
    : (Activation.disableAll host).Leads (fun _ => True) (Awaiting original host before)
        (TurnedOff original before) := by
  have told (text : String) : (Action.log .error .monitors text).Leaves Process.hookState :=
    (Action.hidden_hookState.log _ _ _).leaves
  refine disableEach_leads (awaiting_maintains (Activation.setEnabled_leaves host _ nofun))
    (fun text => awaiting_maintains (told text)) ?_
  refine disableEach_leads (fun process awaiting => awaiting.setPanics)
    (fun text => turnedOff_maintains (told text)) ?_
  exact disableEach_leads (turnedOff_maintains (Activation.setEnabled_leaves host _ nofun))
    (fun text => turnedOff_maintains (told text)) (Maintains.pure _)

end Turns

-----------------------------------------------------------------------------------------
-- Coming to an end
-----------------------------------------------------------------------------------------

theorem PanicHook.ends_install (host : Host) : (install host).Ends := by
  refine .bind (.exchange _ _) fun installed => ?_
  split
  · exact .pure _
  · refine .bind (.exchange _ _) fun free => ?_
    split
    · exact .pure _
    · exact .bind (.exchange _ _) fun previous => .bind (.modify _) fun _ =>
        .bind (.modify _) fun _ => .bind (.modify _) fun _ => .bind (.modify _) fun _ => .pure _

theorem Activation.ends_setEnabled (host : Host) (on : Bool) (monitor : Monitor)
    : (setEnabled host on monitor).Ends := by
  cases on with
  | false => exact ends_setEnabled_false host monitor
  | true =>
      cases monitor with
      | signal => exact ends_setSignals host true
      | user => exact .bind (.exchange _ _) fun _ => .pure _
      | panic =>
          refine .bind (.exchange _ _) fun was => ?_
          split
          · exact .pure _
          · refine .bind (PanicHook.ends_install host) fun result => ?_
            cases result with
            | error failure => exact .pure _
            | ok _ => exact .bind (.exchange _ _) fun _ => .pure _

/-- By induction on the monitors left. -/
theorem Activation.ends_setEach (host : Host) (requested : Selection) (monitors : List Monitor)
    : (setEach host requested monitors).Ends := by
  induction monitors with
  | nil => exact .pure _
  | cons monitor rest ih =>
      refine .bind (ends_setEnabled host _ monitor) fun result => ?_
      cases result with
      | ok _ => exact ih
      | error failure => exact .bind (.modify _) fun _ => ih

/-- A call that turns the panic monitor off ends, and then it is turned off. -/
theorem Call.turnsOff {call : Call} (disables : call.disablesPanics = true)
    (awaiting : Awaiting original host before process)
    : ∃ after, (call.perform host).run process = (some (), after)
        ∧ TurnedOff original before after := by
  suffices leads : (call.perform host).Ends
      ∧ (call.perform host).Leads (fun _ => True) (Awaiting original host before)
          (TurnedOff original before) by
    obtain ⟨_, after, ends⟩ := leads.1 process
    exact ⟨after, ends, (leads.2 process awaiting).run_eq ends⟩
  cases call with
  | setEnabled monitor on =>
      obtain ⟨rfl, rfl⟩ : monitor = .panic ∧ on = false := by simpa [disablesPanics] using disables
      exact ⟨.bind (Activation.ends_setEnabled host _ _) fun _ => .pure _,
        Leads.bind (fun process awaiting => awaiting.setPanics) fun _ => Maintains.pure _⟩
  | setActive requested =>
      have unwanted : requested.panic = false := by simpa [disablesPanics] using disables
      refine ⟨.bind (.bind (Activation.ends_setEach host _ _) fun _ => ?_) fun _ => .pure _,
        Leads.bind (setActive_turnsOff unwanted) fun _ => Maintains.pure _⟩
      exact .bind (.exchange _ _) fun _ => .bind (.modify _) fun _ => .pure _
  | disableAll => exact ⟨Activation.ends_disableAll host, disableAll_turnsOff⟩
  | _ => cases disables

/-- A run starts with the panic monitor off and its hook not installed. Whatever was turned on
and off since then, a call from ordinary code that turns the panic monitor off comes to its end,
and the original hook is back and nothing is left of the monitor's. The exception is a monitor
that was off already with its hook in place, as it is when it was turned off by a panicking
thread or while a failure was handled: then the hook stays where it is, in front of the original
one. The run may have come to the program's callback, too; what led there leaves the hook alone
or is a call itself.
-/
theorem disabling_removes_hook_of_enabled {start : Process} (off : start.enabled.panic = false)
    (uninstalled : start.hookInstalled = false) (unrecorded : start.previousHook = none)
    (foreign : start.hook ≠ .capture) {α : Type} {run : Action α}
    (composed : Composed Process.hooks (fun _ _ => True) run)
    : ∀ result after,
        run.run start = (some result, after)
        → ∀ (host : Host) (call : Call),
            PanicHook.isFree host after = true
            → call.disablesPanics = true
            → ∃ final,
                (call.perform host).run after = (some (), final)
                ∧ final.enabled.panic = false
                ∧ (after.enabled.panic = true ∨ after.hookInstalled = false
                  → final.hook = start.hook
                    ∧ final.hookInstalled = false
                    ∧ final.previousHook = none)
                ∧ (after.enabled.panic = false ∧ after.hookInstalled = true
                  → final.hook = .capture
                    ∧ final.hookInstalled = true
                    ∧ final.previousHook = some start.hook) := by
  intro result after ends host call free disables
  have begins := Hooked.at_start off uninstalled unrecorded foreign
  have hooked : Hooked start.hook after := (run_hooked composed start begins).run_eq ends
  obtain ⟨final, done, turned⟩ := Call.turnsOff disables ⟨hooked, free, rfl⟩
  refine ⟨final, done, turned.off, fun removed => ?_, fun left => ?_⟩
  · have gone : final.hookInstalled = false := by
      refine Bool.eq_false_iff.mpr fun installed => ?_
      obtain ⟨wasOff, wasInstalled⟩ := turned.installed.mp installed
      rcases removed with on | absent
      · exact Bool.false_ne_true (wasOff.symm.trans on)
      · exact Bool.false_ne_true (absent.symm.trans wasInstalled)
    obtain ⟨hook, previous⟩ := turned.hooked.of_uninstalled gone
    exact ⟨hook, gone, previous⟩
  · have installed := turned.installed.mpr left
    obtain ⟨hook, previous⟩ := turned.hooked.of_installed installed
    exact ⟨hook, installed, previous⟩

/-- The panic monitor is turned on, and there is no panic. -/
theorem disabling_removes_hook_of_enabled_of_plain_run
    : let run := (Call.setActive .all).perform .plain
      let after := (run.run .fresh).2
      run.run .fresh = (some (), after)
      ∧ after.hook = .capture
      ∧ PanicHook.isFree .plain after = true
      ∧ ∃ final,
          (Call.disableAll.perform .plain).run after = (some (), final)
          ∧ final.hook = Process.fresh.hook
          ∧ final.hookInstalled = false := by
  intro run after
  have composed : Composed Process.hooks (fun _ _ => True) run :=
    .of_plain trivial fun _ _ => rfl
  have ended : run.run .fresh = (some (), after) := Prod.ext (by decide +kernel) rfl
  have free : PanicHook.isFree .plain after = true := by decide +kernel
  obtain ⟨final, done, _, removed, _⟩ :=
    disabling_removes_hook_of_enabled rfl rfl rfl (by decide) composed () after ended .plain
      .disableAll free rfl
  obtain ⟨hook, gone, _⟩ := removed (.inl (by decide +kernel))
  exact ⟨ended, by decide +kernel, free, final, done, hook, gone⟩

/-- A callback turns the monitor off while its thread panics. When it is turned off again later,
by ordinary code, its hook is still the one that is registered.
-/
theorem hook_survives_disabling_twice
    : let host : Host :=
        { Host.plain with
          onEvent := fun event => do
            let _ ← Activation.setEnabled .plain false .panic
            return event }
      let run : Action Unit := do
        (Call.setEnabled .panic true).perform host
        (Call.panic {}).perform host
      let after := (run.run { Process.fresh with callback := true }).2
      let again := ((Call.setEnabled .panic false).perform host).run after
      (run.run { Process.fresh with callback := true }).1 = some ()
      ∧ PanicHook.isFree host after = true
      ∧ again.1 = some ()
      ∧ again.2.hook = .capture
      ∧ again.2.hookInstalled = true
      ∧ Process.fresh.hook = .standard := by
  decide +kernel

end CrashCapture
