import CrashCapture.Proofs.Monitor.Strands
import CrashCapture.Proofs.Report.Paths
import Mathlib.Algebra.Group.Prod
import Mathlib.Algebra.Order.Group.Multiset

/-! Identifiers of events. A panic and a report take a new one each, which nothing else ever
carries; the signal monitor takes one whenever it is turned on, and all signals that are trapped
until then carry it. So only events of signals can get in each other's way, and those do.
-/

namespace CrashCapture

open Steps

-----------------------------------------------------------------------------------------
-- The register of identifiers
-----------------------------------------------------------------------------------------

variable {ids : Nat → EventId} {taken : Multiset Nat} {used : List Nat}
  {share : Multiset Nat × Multiset UInt64} {before after process : Process} {host : Host}
  {event : Event} {callback : Event → Action Event}

/-- The first half of an identifier that the signal monitor took, or of none. -/
def OfSignals (ids : Nat → EventId) (taken : Multiset Nat) (half : UInt64) : Prop :=
  half = 0 ∨ ∃ index ∈ taken, half = (ids index).high

/-- Whose the identifiers are: those that the signal monitor took, those that other events used
up, and those that somebody holds, each held by nobody else. Of an identifier that was read off
the signal monitor only the first half can be relied on, since its halves are stored one after
the other.
-/
structure Register (ids : Nat → EventId) (taken : Multiset Nat) (used : List Nat)
    (share : Multiset Nat × Multiset UInt64) (process : Process) : Prop where
  distinct : (taken + used + share.1).Nodup
  issued : ∀ index ∈ taken + used + share.1, index < process.issued
  current : OfSignals ids taken process.signalId.high
  read : ∀ half ∈ share.2, OfSignals ids taken half
  signals
    : ∀ event ∈ process.events,
        event.monitor = Monitor.signal.id → OfSignals ids taken event.id.high
  others
    : (process.events.filter (·.monitor ≠ Monitor.signal.id)).map (·.id) = used.map ids

/-- The identifiers that were made are on the register. -/
def Registered (ids : Nat → EventId) (share : Multiset Nat × Multiset UInt64) (process : Process)
    : Prop :=
  ∃ taken used, Register ids taken used share process

/-- What the register depends on. -/
def Process.identifiers (process : Process) : List Event × UInt64 × Nat :=
  (process.events, process.signalId.high, process.issued)

theorem Registered.of_identifiers (same : after.identifiers = before.identifiers)
    (registered : Registered ids share before)
    : Registered ids share after := by
  have events : after.events = before.events := congrArg Prod.fst same
  have current : after.signalId.high = before.signalId.high := congrArg (·.2.1) same
  have issued : after.issued = before.issued := congrArg (·.2.2) same
  obtain ⟨taken, used, register⟩ := registered
  refine ⟨taken, used, register.distinct, ?_, ?_, register.read, ?_, ?_⟩
  · rw [issued]
    exact register.issued
  · rw [current]
    exact register.current
  · rw [events]
    exact register.signals
  · rw [events]
    exact register.others

theorem accounts_registered : Accounts (Registered ids) := fun _ _ _ same =>
  Registered.of_identifiers
    (congrArg (fun ledger : Ledger => (ledger.events, ledger.signalId.high, ledger.issued)) same)

/-- What leaves the events and identifiers alone leaves all shares as they are. -/
theorem registered_owns {α : Type} {action : Action α}
    (never : action.NeverTouches Process.identifiers) (share : Multiset Nat × Multiset UInt64)
    : action.Owns (Registered ids) (fun _ left => left = share) share := by
  have about : ∀ share before after, after.identifiers = before.identifiers →
      Registered ids share before → Registered ids share after :=
    fun _ _ _ same => Registered.of_identifiers same
  exact never.owns about share

theorem OfSignals.mono {more : Multiset Nat} {half : UInt64} (fewer : taken ≤ more)
    (ofSignals : OfSignals ids taken half)
    : OfSignals ids more half := by
  rcases ofSignals with zero | ⟨index, among, same⟩
  · exact .inl zero
  · exact .inr ⟨index, Multiset.mem_of_le fewer among, same⟩

-----------------------------------------------------------------------------------------
-- What becomes of identifiers
-----------------------------------------------------------------------------------------

/-- Whoever makes an identifier holds it. -/
theorem Host.issue_registered (numbered : host.ids = ids)
    : host.issue.Owns (Registered ids)
        (fun id left => ∃ index, id = ids index ∧ left = ({index}, 0)) 0 := by
  refine owns_exchange fun rest process registered => ?_
  obtain ⟨taken, used, register⟩ := registered
  have others : taken + used + (({process.issued}, 0) + rest : Multiset Nat × Multiset UInt64).1
      = process.issued ::ₘ (taken + used + rest.1) := by
    rw [Prod.fst_add, add_left_comm, Multiset.singleton_add]
  have read := register.read
  have distinct := register.distinct
  have issued := register.issued
  rw [zero_add] at read distinct issued
  refine ⟨({process.issued}, 0), ⟨taken, used, ?_, ?_, register.current, ?_, register.signals,
    register.others⟩, process.issued, by rw [numbered], rfl⟩
  · rw [others]
    exact Multiset.nodup_cons.mpr ⟨fun again => Nat.lt_irrefl _ (issued _ again), distinct⟩
  · intro index among
    rw [others] at among
    rcases Multiset.mem_cons.mp among with rfl | earlier
    · exact Nat.lt_succ_self _
    · exact Nat.lt_succ_of_lt (issued index earlier)
  · simpa using read

/-- Who keeps the identifiers may change, as long as no more are kept. -/
theorem Register.reassign {kept : Multiset Nat} {spent : List Nat}
    {left : Multiset Nat × Multiset UInt64} (after : Process)
    (register : Register ids taken used share before)
    (fewer : kept + spent + left.1 ≤ taken + used + share.1)
    (same : after.issued = before.issued)
    : (kept + spent + left.1).Nodup ∧ ∀ index ∈ kept + spent + left.1, index < after.issued := by
  refine ⟨Multiset.nodup_of_le fewer register.distinct, fun index among => ?_⟩
  rw [same]
  exact register.issued index (Multiset.mem_of_le fewer among)

/-- The signal monitor takes an identifier, half after half, from whoever holds it. -/
theorem Activation.storeId_registered (index : Nat)
    : (storeId (ids index)).Owns (Registered ids) (fun _ left => left = 0) ({index}, 0) := by
  refine owns_bind.mpr (owns_modify fun rest process registered => ?_)
  have second (state : Process)
      : { state with signalId.low := (ids index).low }.identifiers = state.identifiers := rfl
  refine ⟨0, ?_, registered_owns (.modify second) 0⟩
  obtain ⟨taken, used, register⟩ := registered
  have more : taken ≤ {index} + taken := Multiset.le_add_left _ _
  have read := register.read
  rw [Prod.snd_add, zero_add] at read
  have fewer
      : {index} + taken + used + (0 + rest : Multiset Nat × Multiset UInt64).1
        ≤ taken + used + (({index}, 0) + rest : Multiset Nat × Multiset UInt64).1 := by
    rw [zero_add, Prod.fst_add]
    exact le_of_eq (by ac_rfl)
  obtain ⟨distinct, issued⟩ := register.reassign process fewer rfl
  refine ⟨{index} + taken, used, distinct, issued, ?_, ?_, ?_, register.others⟩
  · exact .inr ⟨index, by simp, rfl⟩
  · intro half among
    rw [zero_add] at among
    exact (read half among).mono more
  · intro event among ofSignal
    exact (register.signals event among ofSignal).mono more

/-- Whoever reads the signal monitor's identifier knows that its first half is one it took. -/
theorem Trap.loadId_registered
    : loadId.Owns (Registered ids) (fun id left => id.high ∈ left.2) 0 := by
  refine owns_bind.mpr (owns_ask fun rest process registered => ?_)
  refine ⟨(0, {process.signalId.high}), ?_, owns_bind.mpr ((registered_owns (.ask _) _).mono ?_)⟩
  · obtain ⟨taken, used, register⟩ := registered
    refine ⟨taken, used, register.distinct, register.issued, register.current, ?_,
      register.signals, register.others⟩
    intro half among
    rw [Prod.snd_add, Multiset.mem_add, Multiset.mem_singleton] at among
    rcases among with rfl | other
    · exact register.current
    · exact register.read half (by rwa [zero_add])
  · rintro low left rfl
    exact Multiset.mem_singleton_self _

/-- What an event must have for its identifier: the first half known to be the signal monitor's,
or all of it held.
-/
def Backed (ids : Nat → EventId) (share : Multiset Nat × Multiset UInt64) (event : Event) : Prop :=
  if event.monitor = Monitor.signal.id then event.id.high ∈ share.2
  else ∃ index ∈ share.1, event.id = ids index

/-- Delivering an event uses up what backs its identifier. -/
theorem Registered.record {rest : Multiset Nat × Multiset UInt64} (backed : Backed ids share event)
    (registered : Registered ids (share + rest) process)
    : Registered ids rest (process.record (.event event false)) := by
  obtain ⟨taken, used, register⟩ := registered
  have events := process.events_record event false
  have read : ∀ half ∈ share.2 + rest.2, OfSignals ids taken half := register.read
  have later : ∀ half ∈ rest.2, OfSignals ids taken half :=
    fun half among => read half (Multiset.mem_add.mpr (.inr among))
  unfold Backed at backed
  split at backed
  next ofSignal =>
    have fewer : taken + used + rest.1 ≤ taken + used + (share + rest).1 :=
      add_le_add_right (Multiset.le_add_left _ _) _
    obtain ⟨distinct, issued⟩ := register.reassign process fewer rfl
    refine ⟨taken, used, distinct, issued, register.current, later, ?_, ?_⟩
    · intro delivered among isSignal
      rw [events] at among
      rcases List.mem_append.mp among with earlier | last
      · exact register.signals delivered earlier isSignal
      · obtain rfl := List.mem_singleton.mp last
        exact read _ (Multiset.mem_add.mpr (.inl backed))
    · rw [events]
      simpa [ofSignal] using register.others
  next ofOther =>
    obtain ⟨index, held, same⟩ := backed
    have fewer
        : taken + ((used ++ [index] : List Nat) : Multiset Nat) + rest.1
          ≤ taken + used + (share + rest).1 := by
      rw [← Multiset.coe_add, ← add_assoc, add_assoc]
      exact add_le_add_right (add_le_add_left (Multiset.singleton_le.mpr held) _) _
    obtain ⟨distinct, issued⟩ := register.reassign process fewer rfl
    refine ⟨taken, used ++ [index], distinct, issued, register.current, later, ?_, ?_⟩
    · intro delivered among isSignal
      rw [events] at among
      rcases List.mem_append.mp among with earlier | last
      · exact register.signals delivered earlier isSignal
      · obtain rfl := List.mem_singleton.mp last
        exact absurd isSignal ofOther
    · rw [events, List.filter_append, List.map_append, register.others, List.map_append]
      simp [ofOther, same]

-----------------------------------------------------------------------------------------
-- Parts of a capture
-----------------------------------------------------------------------------------------

theorem Activation.installSignals_registered (numbered : host.ids = ids)
    : (installSignals host).Safe (Registered ids) := by
  refine owns_bind.mpr ((Host.issue_registered numbered).mono ?_)
  rintro id left ⟨index, rfl, rfl⟩
  refine Safe.after (storeId_registered index) fun _ => ?_
  refine .bind (accounts_registered.untouched (Activation.hidden_ledger.installHandlers host))
    fun result => ?_
  cases result with
  | error failure => exact .pure _
  | ok _ =>
      exact .bind (accounts_registered.apart (Action.hidden_apart.diagnose _ _ _)) fun _ => .pure _

theorem Pipeline.notifyFatal_registered (host : Host) (inSignalHandler : Bool)
    : (notifyFatal host inSignalHandler).Safe (Registered ids) := by
  have never
      : (Steps.exchange (·.handling) fun process : Process =>
          { process with handling := true }).NeverTouches Process.identifiers :=
    .exchange fun _ => rfl
  refine .of_owns (accounts_registered.notifyFatal (fun _ => True) ?_ inSignalHandler)
  exact (registered_owns never 0).mono fun _ _ _ _ => trivial

/-- An event whose identifier is backed may be handled. -/
theorem Pipeline.handle_registered
    (callbacks : ∀ event, (callback event).Safe (Registered ids)) (backed : Backed ids share event)
    : (handle (host.calling callback) event).Owns (Registered ids) (fun _ _ => True) share := by
  refine accounts_registered.handle (Backed ids share) callbacks ?_ ?_ ?_
  · exact fun _ => backed
  · intro event monitor backed
    unfold annotate
    split
    · split <;> exact backed
    · exact backed
  · intro event backed rest process registered
    exact registered.record backed

theorem Trap.capture_registered (callbacks : ∀ event, (callback event).Safe (Registered ids))
    (signal : FatalSignal) (cause : SignalCause)
    : (capture (host.calling callback) signal cause).Safe (Registered ids) := by
  refine .bind (accounts_registered.apart Suspension.hidden_apart.begin) fun suspension => ?_
  refine .bind (Pipeline.notifyFatal_registered _ _) fun again => ?_
  refine .bind (accounts_registered.apart (Action.hidden_apart.hear _)) fun context => ?_
  refine .bind (accounts_registered.ask _) fun maxDepth => ?_
  refine owns_bind.mpr (loadId_registered.mono fun id left known => ?_)
  exact Safe.after (Pipeline.handle_registered callbacks (if_pos rfl |>.mpr known)) fun _ =>
    accounts_registered.apart (Action.hidden_apart.resume suspension)

/-- An identifier that is held stays so while nobody is asked for it. -/
theorem bind_held {α β : Type} {post : β → Multiset Nat × Multiset UInt64 → Prop}
    {first : Action α} {more : α → Action β} {index : Nat} (safe : first.Safe (Registered ids))
    (held : index ∈ share.1)
    (onward
      : ∀ value left, index ∈ left.1 → (more value).Owns (Registered ids) post left)
    : (first >>= more).Owns (Registered ids) post share :=
  have grows (own left : Multiset Nat × Multiset UInt64) (held : index ∈ left.1)
      : index ∈ (own + left).1 :=
    Multiset.mem_add.mpr (.inr held)
  Safe.bind_keeping grows safe held onward

/-- A panic holds its identifier until it is delivered. -/
theorem Panic.capture_registered (numbered : host.ids = ids)
    (callbacks : ∀ event, (callback event).Safe (Registered ids)) (cause : Cause)
    : (capture (host.calling callback) cause).Safe (Registered ids) := by
  have other : Monitor.panic.id ≠ Monitor.signal.id := by decide
  refine owns_bind.mpr ((Host.issue_registered numbered).mono ?_)
  rintro id left ⟨index, rfl, rfl⟩
  refine bind_held (accounts_registered.ask _) (Multiset.mem_singleton_self index) ?_
  intro isFatal left held
  dsimp only
  split
  case' isTrue => refine bind_held (Pipeline.notifyFatal_registered _ _) held ?_
  case' isFalse => refine bind_held (.pure _) held ?_
  all_goals
    intro again left held
    refine bind_held (accounts_registered.apart Suspension.hidden_apart.begin) held ?_
    intro suspension left held
    refine bind_held (accounts_registered.apart (Action.hidden_apart.hear _)) held ?_
    intro context left held
    refine Safe.after (Pipeline.handle_registered callbacks ?_) fun _ =>
      accounts_registered.apart (Action.hidden_apart.resume suspension)
    exact (if_neg other).mpr ⟨index, held, rfl⟩

/-- A report holds its identifier until it is delivered. -/
theorem UserReport.capture_registered
    (callbacks : ∀ event, (callback event).Safe (Registered ids)) (report : UserReport)
    {index : Nat} (held : index ∈ share.1)
    : (report.capture (host.calling callback) (ids index)).Owns (Registered ids)
        (fun _ _ => True) share := by
  have other : Monitor.user.id ≠ Monitor.signal.id := by decide
  unfold capture
  dsimp only
  split
  case' isTrue =>
    refine bind_held
      (accounts_registered.apart (.bind Suspension.hidden_apart.begin fun _ => .pure _)) held ?_
  case' isFalse => refine bind_held (.pure _) held ?_
  all_goals
    intro suspension left held
    split
    case' isTrue => refine bind_held (Pipeline.notifyFatal_registered _ _) held ?_
    case' isFalse => refine bind_held (.pure _) held ?_
    all_goals
      intro again left held
      refine bind_held (accounts_registered.apart (Action.hidden_apart.hear _)) held ?_
      intro context left held
      refine Safe.after (Pipeline.handle_registered callbacks ?_) fun _ => ?_
      · exact (if_neg other).mpr ⟨index, held, rfl⟩
      · split
        · exact accounts_registered.apart (Action.hidden_apart.resume _)
        · exact .pure _

theorem Host.keeps_registered (numbered : host.ids = ids)
    (callbacks : ∀ event, (callback event).Safe (Registered ids))
    (onSignal : ∀ number signal, (host.onSignal number signal).Safe (Registered ids))
    (onPanic : ∀ text, (host.onPanic text).Safe (Registered ids))
    : (host.calling callback).Keeps (Registered ids) where
  installed := Activation.installSignals_registered numbered
  notified inSignalHandler := Pipeline.notifyFatal_registered _ inSignalHandler
  trapped signal cause := Trap.capture_registered callbacks signal cause
  panicked cause := Panic.capture_registered numbered callbacks cause
  reported report := by
    refine (Host.issue_registered numbered).mono ?_
    rintro id left ⟨index, rfl, rfl⟩
    exact report.capture_registered callbacks (Multiset.mem_singleton_self index)
  onSignal := onSignal
  onPanic := onPanic

-----------------------------------------------------------------------------------------
-- Events with one identifier
-----------------------------------------------------------------------------------------

/-- The events' reports would go to the same file of some directory. -/
def Event.SharesReport (first second : Event) : Prop :=
  ∃ directory path,
    Report.path? Report.pathCapacity directory first.id.text = some path
    ∧ Report.path? Report.pathCapacity directory second.id.text = some path

/-- Files of reports are told apart by the identifiers of their events alone. -/
theorem Event.SharesReport.id_eq {first second : Event} (shares : first.SharesReport second)
    : first.id = second.id := by
  obtain ⟨directory, path, going, coming⟩ := shares
  have same
      : Report.namedPath directory first.id.text = Report.namedPath directory second.id.text :=
    (Report.eq_of_path?_eq_some going).1.symm.trans (Report.eq_of_path?_eq_some coming).1
  exact EventId.text_injective (Report.namedPath_inj same)

section Sharing

variable (register : Register ids taken used share process)
  (unrepeated
    : ∀ first < process.issued, ∀ second < process.issued,
        (ids first).high = (ids second).high → first = second)
include register unrepeated

/-- What is no event of a signal has an identifier that no signal has. -/
theorem Register.unlike (present : ∀ index < process.issued, (ids index).high ≠ 0)
    {trapped other : Event} (among : trapped ∈ process.events)
    (ofSignal : trapped.monitor = Monitor.signal.id) (amid : other ∈ process.events)
    (ofOther : other.monitor ≠ Monitor.signal.id)
    : trapped.id ≠ other.id := by
  intro same
  have listed : other ∈ process.events.filter (·.monitor ≠ Monitor.signal.id) :=
    List.mem_filter.mpr ⟨amid, by simpa using ofOther⟩
  have identified : other.id ∈ used.map ids := by
    rw [← register.others]
    exact List.mem_map_of_mem listed
  obtain ⟨index, spent, named⟩ := List.mem_map.mp identified
  have issued : index < process.issued := register.issued index (by simp [spent])
  have half := register.signals trapped among ofSignal
  rw [same, ← named] at half
  rcases half with zero | ⟨earlier, kept, alike⟩
  · exact present index issued zero
  · have made : earlier < process.issued := register.issued earlier (by simp [kept])
    obtain rfl := unrepeated index issued earlier made alike
    have apart : Disjoint taken (used : Multiset Nat) :=
      (Multiset.nodup_add.mp (Multiset.nodup_add.mp register.distinct).1).2.2
    exact Multiset.disjoint_left.mp apart kept (Multiset.mem_coe.mpr spent)

/-- No two of the events that are not of signals have the same identifier. -/
theorem Register.others_nodup
    : ((process.events.filter (·.monitor ≠ Monitor.signal.id)).map (·.id)).Nodup := by
  have distinct : used.Nodup :=
    Multiset.coe_nodup.mp (Multiset.nodup_add.mp (Multiset.nodup_add.mp register.distinct).1).2.1
  rw [register.others]
  refine List.Nodup.map_on ?_ distinct
  intro first among second amid same
  have issued {index : Nat} (spent : index ∈ used) : index < process.issued :=
    register.issued index (by simp [spent])
  exact unrepeated first (issued among) second (issued amid) (congrArg EventId.high same)

theorem Register.shared_by_signals (present : ∀ index < process.issued, (ids index).high ≠ 0)
    : process.events.Pairwise fun earlier later =>
        earlier.id = later.id
        → earlier.monitor = Monitor.signal.id ∧ later.monitor = Monitor.signal.id := by
  refine List.pairwise_iff_forall_sublist.mpr fun {earlier later} sub same => ?_
  have first : earlier ∈ process.events := sub.subset (by simp)
  have second : later ∈ process.events := sub.subset (by simp)
  by_cases ofFirst : earlier.monitor = Monitor.signal.id
  · by_cases ofSecond : later.monitor = Monitor.signal.id
    · exact ⟨ofFirst, ofSecond⟩
    · exact absurd same (register.unlike unrepeated present first ofFirst second ofSecond)
  · by_cases ofSecond : later.monitor = Monitor.signal.id
    · exact absurd same.symm (register.unlike unrepeated present second ofSecond first ofFirst)
    · have both := (sub.filter (·.monitor ≠ Monitor.signal.id)).map (·.id)
      have twice := (register.others_nodup unrepeated).sublist both
      simp [ofFirst, ofSecond, same] at twice

end Sharing

/-- However the steps of any number of threads interleave, with signals trapped in between and
callbacks that fail themselves, events share an identifier, or the file of a report, only when
both are of signals, provided that no two identifiers are made with the same first half, nor any
with none.
-/
theorem identifiers_shared_by_signals {pool next : List (Action Unit)} {start after : Process}
    (strands : ∀ strand ∈ pool, Strand (fun host => host.ids = ids) strand)
    (fresh : start.events = []) (unset : start.signalId = .nil)
    (reaches : Reaches (pool, start) (next, after))
    (unrepeated
      : ∀ first < after.issued, ∀ second < after.issued,
          (ids first).high = (ids second).high → first = second)
    (present : ∀ index < after.issued, (ids index).high ≠ 0)
    : after.events.Pairwise fun earlier later =>
        earlier.id = later.id ∨ earlier.SharesReport later
        → earlier.monitor = Monitor.signal.id ∧ later.monitor = Monitor.signal.id := by
  have safe : ∀ strand ∈ pool, strand.Safe (Registered ids) := by
    intro strand member
    exact (strands strand member).safe accounts_registered fun _ _ => Host.keeps_registered
  have begun : Registered ids 0 start := by
    refine ⟨0, [], by simp, by simp, ?_, by simp, ?_, ?_⟩
    · rw [unset]
      exact .inl rfl
    · simp [fresh]
    · simp [fresh]
  obtain ⟨share, taken, used, register⟩ := reaches.keeps safe begun
  refine (register.shared_by_signals unrepeated present).imp ?_
  rintro earlier later apart (same | shares)
  · exact apart same
  · exact apart shares.id_eq

/-- Identifiers that count up, in both halves. -/
def countedId (index : Nat) : EventId := ⟨.ofNat (index + 1), .ofNat (index + 1)⟩

/-- All monitors are turned on, a panic is caught, and then a signal is trapped whose event makes
the callback fail.
-/
def panicThenSignals : Action Unit := do
  let host := Host.numbered countedId
  (Call.setActive .all).perform (host.calling pure)
  (Call.panic {}).perform (host.calling pure)
  (Call.raise .abort { code := 0 }).perform (host.calling (failingCallback countedId))

/-- The panic has an identifier of its own, and the two signals share theirs. -/
theorem identifiers_shared_by_signals_of_failing_callback
    : ∃ next after,
        Reaches ([panicThenSignals], { callback := true }) (next, after)
        ∧ after.events.map (fun event => (event.monitor, event.id))
          = [("Panic", countedId 1), ("Signal", countedId 0), ("Signal", countedId 0)]
        ∧ after.events.Pairwise fun earlier later =>
            earlier.id = later.id ∨ earlier.SharesReport later
            → earlier.monitor = Monitor.signal.id ∧ later.monitor = Monitor.signal.id := by
  obtain ⟨ended, reaches⟩ := reaches_run [] [] panicThenSignals { callback := true }
  have issued : (panicThenSignals.run { callback := true }).2.issued = 2 := by decide +kernel
  have strands
      : ∀ strand ∈ [panicThenSignals], Strand (fun host => host.ids = countedId) strand := by
    intro strand member
    obtain rfl := List.mem_singleton.mp member
    have numbered : (Host.numbered countedId).ids = countedId := rfl
    have failing (event : Event)
        : Strand (fun host => host.ids = countedId) (failingCallback countedId event) :=
      failingCallback_strand numbered event
    exact .bind (.of_numbered numbered fun _ => .own (.pure _)) fun _ =>
      .bind (.of_numbered numbered fun _ => .own (.pure _)) fun _ =>
        .of_numbered numbered failing
  refine ⟨_, _, reaches, by decide +kernel,
    identifiers_shared_by_signals strands rfl rfl reaches ?_ ?_⟩
  · rw [issued]
    decide
  · rw [issued]
    decide

/-- A signal whose event makes the callback fail: only one identifier is made, and two events
are delivered with it, whose reports would go to the same file.
-/
theorem nested_signals_share_identifier
    : let signals : Action Unit := do
        let host := (Host.numbered countedId).calling (failingCallback countedId)
        (Call.setActive { signal := true }).perform host
        (Call.raise .abort { code := 0 }).perform host
      ∃ next after,
        Reaches ([signals], { callback := true }) (next, after)
        ∧ after.issued = 1
        ∧ ¬ after.events.Pairwise (fun earlier later => earlier.id ≠ later.id)
        ∧ ¬ after.events.Pairwise (fun earlier later => ¬ earlier.SharesReport later) := by
  intro signals
  obtain ⟨ended, reaches⟩ := reaches_run [] [] signals { callback := true }
  have named
      : (signals.run { callback := true }).2.events.map (·.id) = [countedId 0, countedId 0] := by
    decide +kernel
  obtain ⟨first, rest, events, id, more⟩ := List.map_eq_cons_iff.mp named
  obtain ⟨second, _, rfl, other, last⟩ := List.map_eq_cons_iff.mp more
  obtain rfl := List.map_eq_nil_iff.mp last
  have going
      : (Report.path? Report.pathCapacity [Files.Path.slash] (countedId 0).text).isSome = true := by
    decide +kernel
  obtain ⟨path, fits⟩ := Option.isSome_iff_exists.mp going
  have shares : first.SharesReport second :=
    ⟨[Files.Path.slash], path, by rw [id, fits], by rw [other, fits]⟩
  refine ⟨_, _, reaches, by decide +kernel, ?_, ?_⟩
  · rw [events]
    simp [id, other]
  · rw [events]
    simp [shares]

end CrashCapture
