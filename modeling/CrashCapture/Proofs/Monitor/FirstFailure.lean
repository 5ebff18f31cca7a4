import CrashCapture.Proofs.Monitor.HandlingFlag
import CrashCapture.Proofs.Monitor.Strands

/-! The first failure. However the threads interleave, the callback gets at most one fatal event
of a signal or a panic that is not marked as a failure of handling one. The mark of a failure
being handled is taken once: whoever finds it free owns a credit, which delivering such an
event costs, and nobody else ever gets one.
-/

namespace CrashCapture

open Steps

-----------------------------------------------------------------------------------------
-- Credits
-----------------------------------------------------------------------------------------

/-- A fatal event of the signal or panic monitor that no other failure led to. -/
def Event.isOriginal (event : Event) : Bool :=
  (event.monitor = Monitor.signal.id || event.monitor = Monitor.panic.id)
  && event.isFatal && !event.crashedDuring

/-- The original failures among the events that were delivered. -/
def Process.originals (process : Process) : Nat := process.events.countP Event.isOriginal

/-- The original failures, those that somebody owns a credit for, and one more while the mark is
free, stay within a bound.
-/
def Credited (bound credit : Nat) (process : Process) : Prop :=
  process.originals + (if process.handling then 0 else 1) + credit ≤ bound

/-- What credits depend on. -/
def Process.credits (process : Process) : Bool × List Event := (process.handling, process.events)

variable {bound share credit : Nat} {before after process : Process} {host : Host}
  {event : Event} {callback : Event → Action Event}

theorem Credited.of_credits (same : after.credits = before.credits)
    (credited : Credited bound credit before)
    : Credited bound credit after := by
  have handling : after.handling = before.handling := congrArg Prod.fst same
  have events : after.events = before.events := congrArg Prod.snd same
  rw [Credited, Process.originals, handling, events]
  exact credited

theorem accounts_credited : Accounts (Credited bound) := fun _ _ _ same =>
  Credited.of_credits
    (congrArg (fun ledger : Ledger => (ledger.handling, ledger.events)) same)

/-- What leaves the mark and the events alone needs no credit. -/
theorem credited_owns {α : Type} {action : Action α}
    (never : action.NeverTouches Process.credits) (share : Nat)
    : action.Owns (Credited bound) (fun _ left => left = share) share := by
  have about : ∀ share before after, after.credits = before.credits →
      Credited bound share before → Credited bound share after :=
    fun _ _ _ same => Credited.of_credits same
  exact never.owns about share

/-- Delivering an event costs a credit if it is an original failure. -/
theorem Credited.record {rest : Nat} (credited : Credited bound (share + rest) process)
    (paid : event.isOriginal = true → 1 ≤ share)
    : Credited bound rest (process.record (.event event false)) := by
  have counted
      : (process.record (.event event false)).originals
        = process.originals + if event.isOriginal then 1 else 0 := by
    rw [Process.originals, Process.events_record, List.countP_append, List.countP_singleton]
    rfl
  have handling : (process.record (.event event false)).handling = process.handling := rfl
  rw [Credited] at credited ⊢
  rw [counted, handling]
  split
  next original =>
    have := paid original
    omega
  next => omega

-----------------------------------------------------------------------------------------
-- Parts of a capture
-----------------------------------------------------------------------------------------

/-- Whoever finds the mark free gets the credit for it; it is never free again. -/
theorem Pipeline.notifyFatal_credited (host : Host) (inSignalHandler : Bool)
    : (notifyFatal host inSignalHandler).Owns (Credited bound)
        (fun again left => again = false → 1 ≤ left) 0 := by
  refine accounts_credited.notifyFatal (1 ≤ ·) (owns_exchange fun rest process credited => ?_) _
  cases found : process.handling with
  | false =>
      refine ⟨1, ?_, fun _ => Nat.le_refl 1⟩
      have free : process.originals + 1 + (0 + rest) ≤ bound := by
        simpa [Credited, found] using credited
      show process.originals + 0 + (1 + rest) ≤ bound
      omega
  | true => exact ⟨0, Credited.of_credits (Prod.ext found.symm rfl) credited, nofun⟩

/-- An event that costs no more than what is owned may be handled. -/
theorem Pipeline.handle_credited
    (callbacks : ∀ event, (callback event).Safe (Credited bound))
    (paid : event.isOriginal = true → 1 ≤ share)
    : (handle (host.calling callback) event).Owns (Credited bound) (fun _ _ => True) share := by
  refine accounts_credited.handle (fun shown => shown.isOriginal = true → 1 ≤ share) callbacks
    ?_ ?_ ?_
  · intro crashed original
    refine paid ?_
    simp only [Event.isOriginal, Bool.and_eq_true, Bool.not_eq_true', Bool.or_eq_false_iff]
      at original ⊢
    exact ⟨original.1, original.2.1⟩
  · intro event monitor paid original
    refine paid ?_
    rw [← original]
    unfold annotate
    split
    · split <;> rfl
    · rfl
  · intro event paid rest process credited
    exact credited.record paid

/-- A credit that is owned if it is needed stays so while it is not spent. -/
theorem bind_credit {α β : Type} {post : β → Nat → Prop} {first : Action α}
    {more : α → Action β} {needed : Prop} (safe : first.Safe (Credited bound))
    (paid : needed → 1 ≤ share)
    (onward
      : ∀ value left, (needed → 1 ≤ left) → (more value).Owns (Credited bound) post left)
    : (first >>= more).Owns (Credited bound) post share :=
  Safe.bind_keeping (fun _ _ paid needed => Nat.le_add_left_of_le (paid needed)) safe paid onward

/-- A trapped signal delivers an original failure only with the credit that its notification got.
-/
theorem Trap.capture_credited (callbacks : ∀ event, (callback event).Safe (Credited bound))
    (signal : FatalSignal) (cause : SignalCause)
    : (capture (host.calling callback) signal cause).Safe (Credited bound) := by
  refine .bind (accounts_credited.apart Suspension.hidden_apart.begin) fun suspension => ?_
  refine owns_bind.mpr ((Pipeline.notifyFatal_credited _ _).mono fun again left first => ?_)
  refine bind_credit (accounts_credited.apart (Action.hidden_apart.hear _)) first ?_
  intro context left first
  refine bind_credit (accounts_credited.ask _) first fun maxDepth left first => ?_
  refine bind_credit (accounts_credited.untouched ?_) first fun id left first => ?_
  · exact .bind (.ask _) fun _ => .bind (.ask _) fun _ => .pure _
  · refine Safe.after (Pipeline.handle_credited callbacks fun original => first ?_) fun _ =>
      accounts_credited.apart (Action.hidden_apart.resume suspension)
    simpa [Event.isOriginal, event] using original

/-- A panic is fatal only with a notification of its own, and original only with its credit. -/
theorem Panic.capture_credited (callbacks : ∀ event, (callback event).Safe (Credited bound))
    (cause : Cause)
    : (capture (host.calling callback) cause).Safe (Credited bound) := by
  refine .bind (.of_owns (credited_owns (.exchange fun _ => rfl) 0)) fun id => ?_
  refine .bind (accounts_credited.ask _) fun isFatal => ?_
  dsimp only
  split
  case' isTrue fatal =>
    refine owns_bind.mpr ((Pipeline.notifyFatal_credited _ false).mono ?_)
    intro again left first
    have paid : isFatal = true ∧ again = false → 1 ≤ left := fun both => first both.2
  case' isFalse harmless =>
    refine Safe.bind (.pure _) fun again => ?_
    have paid : isFatal = true ∧ again = false → 1 ≤ 0 := fun both => absurd both.1 harmless
  all_goals
    refine bind_credit (accounts_credited.apart Suspension.hidden_apart.begin) paid ?_
    intro suspension left paid
    refine bind_credit (accounts_credited.apart (Action.hidden_apart.hear _)) paid ?_
    intro context left paid
    refine Safe.after (Pipeline.handle_credited callbacks fun original => paid ?_) fun _ =>
      accounts_credited.apart (Action.hidden_apart.resume suspension)
    simpa [Event.isOriginal] using original

/-- What a program reports itself is no failure of the signal or panic monitor. -/
theorem UserReport.capture_credited (callbacks : ∀ event, (callback event).Safe (Credited bound))
    (report : UserReport) (id : EventId)
    : (report.capture (host.calling callback) id).Safe (Credited bound) := by
  unfold capture
  dsimp only
  split
  case' isTrue =>
    refine .bind (accounts_credited.apart (.bind Suspension.hidden_apart.begin fun _ => .pure _))
      fun _ => ?_
  case' isFalse => refine .bind (.pure _) fun suspension => ?_
  all_goals
    split
    case' isTrue => refine .bind (.of_owns (Pipeline.notifyFatal_credited _ _)) fun again => ?_
    case' isFalse => refine .bind (.pure _) fun again => ?_
    all_goals
      refine .bind (accounts_credited.apart (Action.hidden_apart.hear _)) fun context => ?_
      refine .bind (Pipeline.handle_credited callbacks fun original => ?_) fun _ => ?_
      · simp [Event.isOriginal, Monitor.id] at original
      · split
        · exact accounts_credited.apart (Action.hidden_apart.resume _)
        · exact .pure _

-----------------------------------------------------------------------------------------
-- At most one original failure
-----------------------------------------------------------------------------------------

theorem Host.keeps_credited (callbacks : ∀ event, (callback event).Safe (Credited bound))
    (onSignal : ∀ number signal, (host.onSignal number signal).Safe (Credited bound))
    (onPanic : ∀ text, (host.onPanic text).Safe (Credited bound))
    : (host.calling callback).Keeps (Credited bound) where
  installed :=
    .of_owns (credited_owns
      ((Activation.hidden_watch.installSignals Host.hidden_watch _).comp
        fun watch => (watch.handling, watch.events)) 0)
  notified inSignalHandler := .of_owns (Pipeline.notifyFatal_credited _ inSignalHandler)
  trapped signal cause := Trap.capture_credited callbacks signal cause
  panicked cause := Panic.capture_credited callbacks cause
  reported report :=
    (credited_owns (.exchange fun _ => rfl) 0).mono fun id _ _ =>
      (report.capture_credited callbacks id).owns _
  onSignal := onSignal
  onPanic := onPanic

/-- However the steps of any number of threads interleave, with signals trapped in between and
callbacks that fail themselves, at most one event of the signal or panic monitor is handed to
the callback as fatal and not as a failure of handling one.
-/
theorem originals_at_most_one {pool next : List (Action Unit)} {start after : Process}
    (strands : ∀ strand ∈ pool, Strand (fun _ => True) strand) (fresh : start.events = [])
    (reaches : Reaches (pool, start) (next, after))
    : after.events.countP Event.isOriginal ≤ 1 := by
  have safe : ∀ strand ∈ pool, strand.Safe (Credited 1) := by
    intro strand member
    exact (strands strand member).safe accounts_credited fun _ _ _ => Host.keeps_credited
  have begun : Credited 1 0 start := by
    rw [Credited, Process.originals, fresh]
    split <;> decide
  obtain ⟨total, credited⟩ := reaches.keeps safe begun
  rw [Credited, Process.originals] at credited
  omega

/-- While one thread is trapped and its callback fails, and another one is to panic, the callback
gets two events; only the first one is an original failure.
-/
theorem originals_at_most_one_of_failing_callback
    : let host := (Host.numbered Host.plain.ids).calling (failingCallback Host.plain.ids)
      let trapped := (Call.raise .abort { code := 0 }).perform host
      let panicking := (Call.panic {}).perform host
      ∃ next after,
        Reaches ([trapped, panicking], .watched) (next, after)
        ∧ after.events.map (fun event => (event.isFatal, event.crashedDuring))
          = [(true, false), (true, true)]
        ∧ after.events.countP Event.isOriginal ≤ 1 := by
  intro host trapped panicking
  obtain ⟨ended, reaches⟩ := reaches_run [] [panicking] trapped .watched
  refine ⟨_, _, reaches, by decide +kernel, originals_at_most_one ?_ (by decide +kernel) reaches⟩
  intro strand member
  have callbacks (event : Event)
      : Strand (fun _ => True) (failingCallback Host.plain.ids event) :=
    failingCallback_strand trivial event
  rcases List.mem_cons.mp member with rfl | later
  · exact .of_numbered trivial callbacks
  · obtain rfl := List.mem_singleton.mp later
    exact .of_numbered trivial callbacks

end CrashCapture
