import CrashCapture.Monitor.Install
import CrashCapture.Proofs.Monitor.ActiveSelection
import CrashCapture.Proofs.Threads.Reservations

/-! A configuration that is refused. The threads to reserve are the only thing that a refusal
can come from, and they come last before the monitors: the settings are those of the refused
configuration by then, and the threads before the refused one are reserved.
-/

namespace CrashCapture

open Steps
open Reservation (answer extended nullThread noneLeft)
open Threads (reservedCapacity)

variable {process : Process} {threads : List ThreadId} {accepted : Finset ThreadId}

-----------------------------------------------------------------------------------------
-- Which threads can be reserved
-----------------------------------------------------------------------------------------

namespace Reservation

/-- All the threads can be reserved besides those that are. -/
structure Fit (accepted : Finset ThreadId) (asked : List ThreadId) : Prop where
  named : .null ∉ asked
  room : (accepted ∪ asked.toFinset).card ≤ reservedCapacity

/-- A further thread is inserted before the rest is added. -/
theorem union_cons (accepted : Finset ThreadId) (thread : ThreadId) (rest : List ThreadId)
    : accepted ∪ (thread :: rest).toFinset = insert thread accepted ∪ rest.toFinset := by
  rw [List.toFinset_cons, Finset.union_insert, Finset.insert_union]

/-- Nothing more to reserve always fits. -/
theorem fit_nil (room : accepted.card ≤ reservedCapacity) : Fit accepted [] where
  named := List.not_mem_nil
  room := by rwa [List.toFinset_nil, Finset.union_empty]

/-- Threads fit when the first one does and the rest fits after it. -/
theorem fit_cons {thread : ThreadId} {rest : List ThreadId}
    : Fit accepted (thread :: rest)
      ↔ Fit accepted [thread] ∧ Fit (insert thread accepted) rest := by
  constructor
  · rintro ⟨named, room⟩
    rw [union_cons] at room
    obtain ⟨unlike, others⟩ := not_or.mp fun among => named (List.mem_cons.mpr among)
    refine ⟨⟨fun among => unlike (List.mem_singleton.mp among), ?_⟩, others, room⟩
    rw [union_cons, List.toFinset_nil, Finset.union_empty]
    exact (Finset.card_le_card Finset.subset_union_left).trans room
  · rintro ⟨first, others⟩
    refine ⟨fun among => ?_, (union_cons accepted thread rest).symm ▸ others.room⟩
    rcases List.mem_cons.mp among with here | later
    · exact first.named (List.mem_singleton.mpr here)
    · exact others.named later

/-- A thread is accepted just if it can be reserved. -/
theorem answer_ok_iff (room : accepted.card ≤ reservedCapacity) (thread : ThreadId)
    : answer accepted thread = .ok () ↔ Fit accepted [thread] := by
  have single : accepted ∪ [thread].toFinset = insert thread accepted := by
    rw [union_cons, List.toFinset_nil, Finset.union_empty]
  unfold answer
  split
  next null => exact failed_iff fun fit => fit.named (List.mem_singleton.mpr null.symm)
  next named =>
    have other : .null ∉ [thread] := fun among => named (List.mem_singleton.mp among).symm
    split
    next fits =>
      refine iff_of_true rfl ⟨other, ?_⟩
      rw [single]
      rcases fits with known | less
      · rwa [Finset.insert_eq_of_mem known]
      · exact (Finset.card_insert_le _ _).trans less
    next full =>
      obtain ⟨fresh, most⟩ := not_or.mp full
      refine failed_iff fun fit => most ?_
      have more := fit.room
      rwa [single, Finset.card_insert_of_notMem fresh] at more

/-- Why a thread is refused. -/
def refusal (thread : ThreadId) : Failure :=
  if thread = .null then nullThread else noneLeft

/-- A thread that is not accepted is refused with the reason that it has. -/
theorem answer_eq_refusal {thread : ThreadId} (refused : answer accepted thread ≠ .ok ())
    : answer accepted thread = .error (refusal thread) := by
  unfold answer refusal at *
  split at refused
  next null => rw [if_pos null, if_pos null]
  next named =>
    split at refused
    · exact absurd rfl refused
    next full => rw [if_neg named, if_neg named, if_neg full]

/-- The first threads can be reserved, and the one behind them is refused. -/
structure StopsAt (accepted : Finset ThreadId) (asked front : List ThreadId)
    (failure : Failure) : Prop where
  fit : Fit accepted front
  refused
    : ∃ thread rest,
        asked = front ++ thread :: rest
        ∧ ¬ Fit accepted (front ++ [thread])
        ∧ failure = refusal thread

/-- A thread in front that fits is accepted before the refusal comes. -/
theorem StopsAt.cons {thread : ThreadId} {asked front : List ThreadId} {failure : Failure}
    (first : Fit accepted [thread])
    (stops : StopsAt (insert thread accepted) asked front failure)
    : StopsAt accepted (thread :: asked) (thread :: front) failure := by
  obtain ⟨refused, rest, split, unfit, reason⟩ := stops.refused
  refine ⟨fit_cons.mpr ⟨first, stops.fit⟩, refused, rest, ?_, fun fit => ?_, reason⟩
  · rw [split, List.cons_append]
  · exact unfit (fit_cons.mp fit).2

/-- The front of threads that fit does so too. -/
theorem Fit.front {front rest : List ThreadId} (fit : Fit accepted (front ++ rest))
    : Fit accepted front where
  named among := fit.named (List.mem_append_left _ among)
  room := by
    refine (Finset.card_le_card (Finset.union_subset_union_right ?_)).trans fit.room
    rw [List.toFinset_append]
    exact Finset.subset_union_left

/-- Threads do not fit where one of them is refused. -/
theorem StopsAt.not_fit {asked front : List ThreadId} {failure : Failure}
    (stops : StopsAt accepted asked front failure)
    : ¬ Fit accepted asked := by
  obtain ⟨refused, rest, rfl, unfit, _⟩ := stops.refused
  intro fit
  rw [List.append_cons] at fit
  exact unfit fit.front

end Reservation

-----------------------------------------------------------------------------------------
-- Reserving up to a refusal
-----------------------------------------------------------------------------------------

namespace Config

open Reservation

/-- Reserving threads touches nothing but what is reserved. -/
theorem reserveEach_neverTouches (asked : List ThreadId)
    : (reserveEach asked).NeverTouches Reservation.others := by
  induction asked with
  | nil => exact .pure _
  | cons thread rest ih =>
      refine .bind (reserve_neverTouches thread) fun outcome => ?_
      cases outcome with
      | ok _ => exact ih
      | error failure => exact .pure _

/-- What reserving some threads comes to: all of them are reserved now, or those before the
first one that was refused.
-/
def Granted (threads asked : List ThreadId) : Except Failure Unit → List ThreadId → Prop
  | .ok (), reserved =>
    Fit threads.toFinset asked ∧ reserved.toFinset = threads.toFinset ∪ asked.toFinset
  | .error failure, reserved =>
    ∃ front,
      StopsAt threads.toFinset asked front failure
      ∧ reserved.toFinset = threads.toFinset ∪ front.toFinset

/-- By induction on the threads asked for: what was reserved before stays in front. -/
theorem reserveEach_run (asked : List ThreadId) (shows : process.reserved.Shows threads)
    : ∃ result after reserved,
        (reserveEach asked).run process = (some result, after)
        ∧ after.reserved.Shows reserved
        ∧ threads <+: reserved
        ∧ Granted threads asked result reserved := by
  have room : threads.toFinset.card ≤ reservedCapacity :=
    (List.toFinset_card_le threads).trans shows.fits
  induction asked generalizing process threads with
  | nil =>
      refine ⟨.ok (), process, threads, rfl, shows, List.prefix_rfl, fit_nil room, ?_⟩
      rw [List.toFinset_nil, Finset.union_empty]
  | cons thread rest ih =>
      obtain ⟨between, first, standing⟩ := reserve_run shows thread
      by_cases fine : answer threads.toFinset thread = .ok ()
      · have fit := (answer_ok_iff room thread).mp fine
        have more := extended_of_accepted shows.distinct fine
        have still : (extended threads thread).toFinset.card ≤ reservedCapacity :=
          (List.toFinset_card_le _).trans standing.fits
        obtain ⟨result, after, reserved, ends, showing, front, outcome⟩ := ih standing still
        refine ⟨result, after, reserved, ?_, showing, (prefix_extended _ _).trans front, ?_⟩
        · rw [reserveEach, run_bind, first, fine]
          exact ends
        · cases result with
          | ok _ =>
              obtain ⟨others, same⟩ := outcome
              rw [more] at others same
              exact ⟨fit_cons.mpr ⟨fit, others⟩, same.trans (union_cons _ _ _).symm⟩
          | error failure =>
              obtain ⟨front, stops, same⟩ := outcome
              rw [more] at stops same
              exact ⟨thread :: front, stops.cons fit, same.trans (union_cons _ _ _).symm⟩
      · have unfit : ¬ Fit threads.toFinset [thread] := fun fit =>
          fine ((answer_ok_iff room thread).mpr fit)
        have kept := extended_of_refused shows.distinct fine
        rw [answer_eq_refusal fine] at first
        refine ⟨.error (refusal thread), between, threads, ?_, kept ▸ standing,
          List.prefix_rfl, [], ⟨fit_nil room, thread, rest, rfl, unfit, rfl⟩, ?_⟩
        · rw [reserveEach, run_bind, first]
          rfl
        · rw [List.toFinset_nil, Finset.union_empty]

-----------------------------------------------------------------------------------------
-- The whole configuration
-----------------------------------------------------------------------------------------

/-- What a configuration sets before any monitor is turned on. -/
structure Settings where
  level : Log.Level
  sigterm : Bool
  maxDepth : Nat
  callback : Bool
deriving DecidableEq

def settings (config : Config) : Settings where
  level := config.logLevel
  sigterm := config.sigterm
  maxDepth := max leastDepth config.maxDepth
  callback := config.callback

end Config

namespace Process

def settings (process : Process) : Config.Settings where
  level := process.logger.level
  sigterm := process.sigterm
  maxDepth := process.maxDepth
  callback := process.callback

def putSettings (process : Process) (settings : Config.Settings) : Process :=
  { process with
    logger.level := settings.level
    sigterm := settings.sigterm
    maxDepth := settings.maxDepth
    callback := settings.callback }

/-- All of a process but its settings, the reserved threads and what the rest of the world gets
to see: the monitors that are on, and everything that they installed.
-/
def monitored (process : Process) : Process :=
  Reservation.others (process.putSettings ⟨.warn, false, 0, false⟩)

end Process

namespace Config

open Reservation

/-- The settings come first, whatever becomes of the threads. -/
theorem prepare_run (config : Config) (process : Process)
    : config.prepare.run process
      = (reserveEach config.reserved).run (process.putSettings config.settings) := rfl

/-- Reserving threads changes neither the settings nor what monitors installed. -/
theorem reserveEach_keeps {asked : List ThreadId} {result : Except Failure Unit}
    {after : Process} (ends : (reserveEach asked).run process = (some result, after))
    : after.settings = process.settings ∧ after.monitored = process.monitored := by
  have same : others after = others process :=
    ((reserveEach_neverTouches asked).leaves process).run_eq ends
  have monitored (found : Process) : found.monitored = (others found).monitored := rfl
  have settings : (others after).settings = (others process).settings :=
    congrArg Process.settings same
  refine ⟨settings, ?_⟩
  rw [monitored after, monitored process, same]

/-- After the threads nothing is refused any more. -/
theorem install_run_of_prepared {config : Config} {prepared : Process} (host : Host)
    (ends : config.prepare.run process = (some (.ok ()), prepared))
    : ∃ active after, (config.install host).run process = (some (.ok active), after) := by
  obtain ⟨active, found, activated⟩ := Activation.ends_setActive host config.monitors prepared
  rw [install, run_bind, ends]
  dsimp only
  rw [run_bind, activated]
  dsimp only
  split <;> exact ⟨_, _, rfl⟩

/-- What was reserved before is all that is reserved just if the threads in front were. -/
theorem reserved_eq_iff {after : Process} {reserved front : List ThreadId}
    (shows : process.reserved.Shows threads) (showing : after.reserved.Shows reserved)
    (longer : threads <+: reserved)
    (same : reserved.toFinset = threads.toFinset ∪ front.toFinset)
    : after.reserved = process.reserved
      ↔ ∀ thread ∈ front, process.reserved.contains thread = true := by
  constructor
  · intro unchanged thread member
    rw [← unchanged, showing.contains_iff, ← List.mem_toFinset, same]
    exact Finset.mem_union_right _ (List.mem_toFinset.mpr member)
  · intro known
    have inside : front.toFinset ⊆ threads.toFinset := fun thread member => by
      rw [List.mem_toFinset] at member ⊢
      exact shows.contains_iff.mp (known thread member)
    rw [Finset.union_eq_left.mpr inside] at same
    have length : threads.length = reserved.length := by
      rw [← List.toFinset_card_of_nodup shows.distinct, ← same,
        List.toFinset_card_of_nodup showing.distinct]
    exact showing.unique (longer.eq_of_length length ▸ shows)

/-- Putting a configuration in force fails just if one of its threads is null or does not fit.
No monitor was touched then, so those of an earlier configuration stay on with all that they
installed, but the settings are those of the refused configuration, its callback among them, and
the threads before the refused one are reserved. Nothing has changed only where the settings
were the same before and those threads were reserved already.
-/
theorem refused_install_leaves_settings (config : Config) (host : Host)
    (shows : process.reserved.Shows threads)
    : (Fit threads.toFinset config.reserved →
        ∃ active after, (config.install host).run process = (some (.ok active), after))
      ∧ (¬ Fit threads.toFinset config.reserved → ∃ front failure after,
          (config.install host).run process = (some (.error failure), after)
          ∧ StopsAt threads.toFinset config.reserved front failure
          ∧ after.monitored = process.monitored
          ∧ after.settings = config.settings
          ∧ (∀ thread,
              after.reserved.contains thread = true
              ↔ process.reserved.contains thread = true ∨ thread ∈ front)
          ∧ (after.settings = process.settings ∧ after.reserved = process.reserved
              ↔ config.settings = process.settings
                ∧ ∀ thread ∈ front, process.reserved.contains thread = true)) := by
  have start : (process.putSettings config.settings).reserved.Shows threads := shows
  obtain ⟨result, after, reserved, ends, showing, longer, granted⟩ :=
    reserveEach_run config.reserved start
  obtain ⟨settings, monitored⟩ := reserveEach_keeps ends
  rw [← prepare_run] at ends
  cases result with
  | ok _ =>
      exact ⟨fun _ => install_run_of_prepared host ends, fun unfit => absurd granted.1 unfit⟩
  | error failure =>
      obtain ⟨front, stops, same⟩ := granted
      refine ⟨fun fit => absurd fit stops.not_fit, fun _ => ?_⟩
      refine ⟨front, failure, after, ?_, stops, monitored, settings, fun thread => ?_, ?_⟩
      · rw [install, run_bind, ends]
        rfl
      · rw [showing.contains_iff, shows.contains_iff, ← List.mem_toFinset, same,
          Finset.mem_union, List.mem_toFinset, List.mem_toFinset]
      · rw [settings, ← reserved_eq_iff shows showing longer same]
        exact Iff.rfl

/-- A process whose monitors are on gets a configuration without a callback, which is refused
because of its second thread.
-/
theorem refused_install_leaves_settings_of_null_thread
    : let config : Config := { reserved := [⟨1⟩, .null] }
      Process.watched.reserved.Shows []
      ∧ ¬ Fit ∅ config.reserved
      ∧ ∃ after,
          (config.install .plain).run .watched = (some (.error nullThread), after)
          ∧ after.enabled = .all
          ∧ after.callback = false
          ∧ after.reserved.contains ⟨1⟩ = true := by
  intro config
  have shows : Process.watched.reserved.Shows [] := by
    have none : Process.watched.reserved = .empty := by decide +kernel
    exact none ▸ Threads.Reserved.shows_empty
  have unfit : ¬ Fit ([] : List ThreadId).toFinset config.reserved :=
    fun fit => fit.named (by decide)
  obtain ⟨front, failure, after, ends, _, monitored, settings, _⟩ :=
    (refused_install_leaves_settings config .plain shows).2 unfit
  have answer : ((config.install .plain).run .watched).1 = some (.error nullThread) := by
    decide +kernel
  have first : ((config.install .plain).run .watched).2.reserved.contains ⟨1⟩ = true := by
    decide +kernel
  have enabled : Process.watched.enabled = .all := by decide +kernel
  rw [ends] at answer first
  obtain rfl : failure = nullThread := by simpa using answer
  exact ⟨shows, unfit, after, ends, (congrArg Process.enabled monitored).trans enabled,
    congrArg Settings.callback settings, first⟩

/-- An earlier configuration's monitors stay on, without its callback and its settings. -/
theorem refused_install_drops_callback
    : let earlier : Config := { callback := true, sigterm := true }
      let installed := ((earlier.install .plain).run .fresh).2
      let refused := (({ reserved := [.null] } : Config).install .plain).run installed
      refused.1 = some (.error nullThread)
      ∧ installed.enabled = .all
      ∧ installed.settings = ⟨.warn, true, 500, true⟩
      ∧ refused.2.enabled = .all
      ∧ refused.2.settings = ⟨.warn, false, 500, false⟩ := by
  decide +kernel

end Config

end CrashCapture
