import CrashCapture.Process.Reservation
import CrashCapture.Proofs.Process.Stepwise
import CrashCapture.Proofs.Threads.Roster
import Mathlib.Data.Finset.Card

/-! The row of reserved threads is a set with a bound. Whatever was asked for before, the slots
in use hold the threads that were accepted, each of them once, and how the next one is answered
is a matter of that set alone.
-/

namespace CrashCapture

namespace Threads.Reserved

variable {reserved : Reserved} {threads : List ThreadId} {thread : ThreadId}

-----------------------------------------------------------------------------------------
-- What the slots hold
-----------------------------------------------------------------------------------------

/-- The slots hold some threads in their order, each of them once and none of them null, and
nothing behind them. The counter stands at their number.
-/
structure Shows (threads : List ThreadId) (reserved : Reserved) : Prop where
  slots
    : reserved.slots.toList
      = threads ++ List.replicate (reservedCapacity - threads.length) .null
  used : reserved.used = threads.length
  named : .null ∉ threads
  distinct : threads.Nodup

/-- Nothing is reserved at first. -/
theorem shows_empty : empty.Shows [] where
  slots := rfl
  used := rfl
  named := List.not_mem_nil
  distinct := .nil

namespace Shows

/-- There are no more reserved threads than slots. -/
theorem fits (shows : reserved.Shows threads) : threads.length ≤ reservedCapacity := by
  have length := congrArg List.length shows.slots
  rw [Vector.length_toList, List.length_append, List.length_replicate] at length
  omega

/-- The counter counts the threads shown. -/
theorem count_eq (shows : reserved.Shows threads) : reserved.count = threads.length := by
  rw [count, shows.used, Nat.min_eq_left shows.fits]

/-- The threads shown determine slots and counter. -/
theorem unique {other : Reserved} (shows : reserved.Shows threads) (also : other.Shows threads)
    : reserved = other := by
  obtain ⟨slots, used⟩ := reserved
  obtain ⟨others, count⟩ := other
  obtain rfl : slots = others := Vector.toList_inj.mp (shows.slots.trans also.slots.symm)
  obtain rfl : used = count := shows.used.trans also.used.symm
  rfl

/-- What is listed is what is shown. -/
theorem threads_eq (shows : reserved.Shows threads) : reserved.threads = threads := by
  rw [Reserved.threads, shows.slots, shows.count_eq, List.take_left]

/-- The search through the slots finds the threads shown. -/
theorem contains_iff (shows : reserved.Shows threads)
    : reserved.contains thread = true ↔ thread ∈ threads := by
  rw [contains, shows.threads_eq, List.contains_iff_mem]

/-- The next slot is the one behind the threads. -/
theorem freeSlot?_eq (shows : reserved.Shows threads) (room : threads.length < reservedCapacity)
    : reserved.freeSlot? = some ⟨threads.length, room⟩ := by
  simp [freeSlot?, shows.used, room]

/-- There is no free slot when as many threads are shown as there are slots. -/
theorem freeSlot?_eq_none (shows : reserved.Shows threads)
    (full : reservedCapacity ≤ threads.length)
    : reserved.freeSlot? = none := by
  simp [freeSlot?, shows.used, Nat.not_lt_of_le full]

/-- A new thread in the next slot comes behind the others. -/
theorem add (shows : reserved.Shows threads) (room : threads.length < reservedCapacity)
    (named : thread ≠ .null) (fresh : thread ∉ threads)
    : Shows (threads ++ [thread])
        { slots := reserved.slots.set threads.length thread room
          used := threads.length + 1 } where
  slots := by
    have left
        : reservedCapacity - threads.length
          = reservedCapacity - (threads ++ [thread]).length + 1 := by
      rw [List.length_append, List.length_singleton]
      omega
    rw [Vector.toList_set, shows.slots, left, List.set_append_right _ _ (Nat.le_refl _),
      Nat.sub_self, List.replicate_succ, List.set_cons_zero, List.append_assoc,
      List.singleton_append]
  used := by rw [List.length_append, List.length_singleton]
  named := by
    intro among
    rcases List.mem_append.mp among with before | last
    · exact shows.named before
    · exact named (List.mem_singleton.mp last).symm
  distinct := by
    refine List.nodup_append.mpr ⟨shows.distinct, List.nodup_singleton thread, ?_⟩
    rintro other before _ last rfl
    exact fresh (List.mem_singleton.mp last ▸ before)

/-- No thread stands in two slots: behind the threads there are only empty slots. -/
theorem slot_inj (shows : reserved.Shows threads) {first second : Fin reservedCapacity}
    (same : reserved.slots.get first = reserved.slots.get second)
    (named : reserved.slots.get first ≠ .null)
    : first = second := by
  have stands (slot : Fin reservedCapacity) (holds : reserved.slots.get slot ≠ .null)
      : threads[slot.val]? = some (reserved.slots.get slot) := by
    have here
        : (threads ++ List.replicate (reservedCapacity - threads.length) .null)[slot.val]?
          = some (reserved.slots.get slot) := by
      rw [← shows.slots, Vector.getElem?_toList]
      exact Vector.getElem?_eq_getElem slot.isLt
    rcases Nat.lt_or_ge slot.val threads.length with before | behind
    · rwa [List.getElem?_append_left before] at here
    · rw [List.getElem?_append_right behind] at here
      exact absurd (List.eq_of_mem_replicate (List.mem_of_getElem? here)) holds
  have left := stands first named
  have right := stands second (same ▸ named)
  rw [← same] at right
  obtain ⟨inside, _⟩ := List.getElem?_eq_some_iff.mp left
  exact Fin.ext ((List.getElem?_inj inside shows.distinct).mp (left.trans right.symm))

end Shows

end Threads.Reserved

namespace Reservation

open Steps
open Threads (reservedCapacity)

variable {process : Process} {threads : List ThreadId} {thread : ThreadId}

-----------------------------------------------------------------------------------------
-- One reservation
-----------------------------------------------------------------------------------------

/-- All of a process but its reserved threads and what the rest of the world gets to see. -/
def others (process : Process) : Process :=
  { process with reserved := .empty, happenings := [] }

/-- Reserving touches nothing but what is reserved. -/
theorem reserve_neverTouches (thread : ThreadId) : (reserve thread).NeverTouches others := by
  unfold reserve
  split
  · exact .pure _
  · refine .bind (.ask _) fun known => ?_
    split
    · exact .pure _
    · refine .bind (.exchange fun process => ?_) fun slot => ?_
      · split <;> rfl
      · cases slot with
        | none => exact .bind (.modify fun _ => rfl) fun _ => .pure _
        | some slot =>
            exact .bind (.modify fun _ => rfl) fun _ => .bind (.modify fun _ => rfl) fun _ =>
              .pure _

/-- A thread without a name is refused. -/
theorem reserve_null (process : Process)
    : (reserve .null).run process = (some (.error nullThread), process) := rfl

/-- A thread that is reserved already is accepted and not reserved twice. -/
theorem reserve_known (named : thread ≠ .null)
    (known : process.reserved.contains thread = true)
    : (reserve thread).run process = (some (.ok ()), process) := by
  simp [reserve, run_bind, ThreadId.isNull_iff, named, known]

/-- Without a slot to give out a new thread is refused. -/
theorem reserve_full (named : thread ≠ .null)
    (fresh : process.reserved.contains thread = false)
    (full : process.reserved.freeSlot? = none)
    : ∃ after,
        (reserve thread).run process = (some (.error noneLeft), after)
        ∧ after.reserved = process.reserved := by
  simp [reserve, takeSlot, Action.diagnose, Action.record, run_bind, ThreadId.isNull_iff, named,
    fresh, full]
  rfl

/-- A new thread gets the slot that is given out, and the counter stands behind that. -/
theorem reserve_new {slot : Fin reservedCapacity} (named : thread ≠ .null)
    (fresh : process.reserved.contains thread = false)
    (room : process.reserved.freeSlot? = some slot)
    : ∃ after,
        (reserve thread).run process = (some (.ok ()), after)
        ∧ after.reserved = ⟨process.reserved.slots.set slot thread slot.isLt, slot + 1⟩ := by
  simp [reserve, takeSlot, fill, Action.diagnose, Action.record, run_bind, ThreadId.isNull_iff,
    named, fresh, room]
  rfl

/-- How a reservation is answered when some threads have been accepted before. -/
def answer (accepted : Finset ThreadId) (thread : ThreadId) : Except Failure Unit :=
  if thread = .null then .error nullThread
  else if thread ∈ accepted ∨ accepted.card < reservedCapacity then .ok ()
  else .error noneLeft

/-- The threads that are reserved after another one was asked for. -/
def extended (threads : List ThreadId) (thread : ThreadId) : List ThreadId :=
  if thread ≠ .null ∧ thread ∉ threads ∧ threads.length < reservedCapacity
  then threads ++ [thread]
  else threads

/-- A thread is in the extended list when it was before or is the one that was accepted. -/
theorem mem_extended {other : ThreadId} (distinct : threads.Nodup)
    : other ∈ extended threads thread
      ↔ other ∈ threads ∨ other = thread ∧ answer threads.toFinset thread = .ok () := by
  have card : threads.toFinset.card = threads.length :=
    List.toFinset_card_of_nodup distinct
  grind [extended, answer, List.mem_toFinset]

/-- An accepted thread is inserted. -/
theorem extended_of_accepted (distinct : threads.Nodup)
    (fine : answer threads.toFinset thread = .ok ())
    : (extended threads thread).toFinset = insert thread threads.toFinset := by
  ext other
  simp only [List.mem_toFinset, mem_extended distinct, fine, Finset.mem_insert, and_true]
  exact or_comm

/-- A refused thread leaves the list as it is. -/
theorem extended_of_refused (distinct : threads.Nodup)
    (refused : answer threads.toFinset thread ≠ .ok ())
    : extended threads thread = threads := by
  rw [extended, if_neg]
  rintro ⟨named, _, less⟩
  rw [← List.toFinset_card_of_nodup distinct] at less
  exact refused (by rw [answer, if_neg named, if_pos (.inr less)])

/-- Earlier reservations stay in front. -/
theorem prefix_extended (threads : List ThreadId) (thread : ThreadId)
    : threads <+: extended threads thread := by
  unfold extended
  split
  · exact List.prefix_append _ _
  · exact List.prefix_rfl

/-- A reservation is answered by what was accepted before, and adds one thread at most. The
cases are those of the code: no thread at all, a thread that is reserved already, and a new one
with and without a slot left.
-/
theorem reserve_run (shows : process.reserved.Shows threads) (thread : ThreadId)
    : ∃ after,
        (reserve thread).run process = (some (answer threads.toFinset thread), after)
        ∧ after.reserved.Shows (extended threads thread) := by
  have card : threads.toFinset.card = threads.length :=
    List.toFinset_card_of_nodup shows.distinct
  by_cases null : thread = .null
  · subst null
    refine ⟨process, ?_, ?_⟩
    · rw [reserve_null, answer, if_pos rfl]
    · rwa [extended, if_neg fun new => new.1 rfl]
  by_cases known : thread ∈ threads
  · refine ⟨process, ?_, ?_⟩
    · rw [reserve_known null (shows.contains_iff.mpr known), answer, if_neg null,
        if_pos (.inl (List.mem_toFinset.mpr known))]
    · rwa [extended, if_neg fun new => new.2.1 known]
  have fresh : process.reserved.contains thread = false :=
    Bool.eq_false_iff.mpr fun among => known (shows.contains_iff.mp among)
  rcases Nat.lt_or_ge threads.length reservedCapacity with room | full
  · obtain ⟨after, ends, stored⟩ := reserve_new null fresh (shows.freeSlot?_eq room)
    refine ⟨after, ?_, ?_⟩
    · rw [ends, answer, if_neg null, if_pos (.inr (card ▸ room))]
    · rw [stored, extended, if_pos ⟨null, known, room⟩]
      exact shows.add room null known
  · obtain ⟨after, ends, kept⟩ := reserve_full null fresh (shows.freeSlot?_eq_none full)
    refine ⟨after, ?_, ?_⟩
    · rw [ends, answer, if_neg null, if_neg]
      rintro (member | less)
      · exact known (List.mem_toFinset.mp member)
      · omega
    · rw [kept, extended, if_neg fun new => Nat.not_lt_of_le full new.2.2]
      exact shows

/-- What is refused leaves the slots as they are. -/
theorem reserve_refused {failure : Failure} {after : Process}
    (ends : (reserve thread).run process = (some (.error failure), after))
    : after.reserved = process.reserved := by
  by_cases null : thread = .null
  · rw [null, reserve_null] at ends
    cases ends
    rfl
  cases known : process.reserved.contains thread with
  | true => simp [reserve_known null known] at ends
  | false =>
      cases room : process.reserved.freeSlot? with
      | none =>
          obtain ⟨last, same, kept⟩ := reserve_full null known room
          rw [same] at ends
          cases ends
          exact kept
      | some slot =>
          obtain ⟨last, same, _⟩ := reserve_new null known room
          simp [same] at ends

-----------------------------------------------------------------------------------------
-- Reservations one after the other
-----------------------------------------------------------------------------------------

/-- Asks for one thread after the other, whatever the answers are, and tells each of them. -/
def attempt : List ThreadId → Action (List (ThreadId × Except Failure Unit))
  | [] => return []
  | thread :: rest => do
    let outcome ← reserve thread
    return (thread, outcome) :: (← attempt rest)

/-- The threads that were accepted. -/
def accepted (history : List (ThreadId × Except Failure Unit)) : Finset ThreadId :=
  ((history.filter (·.2.isOk)).map Prod.fst).toFinset

/-- What was accepted is what was answered so. -/
theorem mem_accepted {history : List (ThreadId × Except Failure Unit)}
    : thread ∈ accepted history ↔ (thread, .ok ()) ∈ history := by
  simp only [accepted, List.mem_toFinset, List.mem_map, List.mem_filter]
  constructor
  · rintro ⟨⟨_, outcome⟩, ⟨member, fine⟩, rfl⟩
    cases outcome with
    | ok => exact member
    | error => cases fine
  · exact fun member => ⟨_, ⟨member, rfl⟩, rfl⟩

/-- Along any calls the slots show the threads that were accepted before and those that are
accepted now, by induction along the calls.
-/
theorem attempt_run (calls : List ThreadId) (shows : process.reserved.Shows threads)
    : ∃ history after reserved,
        (attempt calls).run process = (some history, after)
        ∧ history.map Prod.fst = calls
        ∧ after.reserved.Shows reserved
        ∧ reserved.toFinset = threads.toFinset ∪ accepted history := by
  induction calls generalizing process threads with
  | nil => exact ⟨[], process, threads, rfl, rfl, shows, (Finset.union_empty _).symm⟩
  | cons thread rest ih =>
      obtain ⟨between, first, standing⟩ := reserve_run shows thread
      obtain ⟨history, after, reserved, ends, asked, showing, same⟩ := ih standing
      refine ⟨(thread, answer threads.toFinset thread) :: history, after, reserved, ?_, ?_,
        showing, ?_⟩
      · rw [attempt, run_bind, first]
        simp only [run_bind, ends, run_pure]
      · rw [List.map_cons, asked]
      · rw [same]
        ext other
        simp only [Finset.mem_union, List.mem_toFinset, mem_extended shows.distinct,
          mem_accepted, List.mem_cons, Prod.mk.injEq]
        tauto

/-- Whatever was asked for, the slots are a set of at most ten threads, those that were
accepted, and the next reservation is answered by that set: no thread at all is refused, one of
the set is accepted without any effect, and a new one as long as there are less than ten. What
is refused leaves the set as it is, and no reservation touches anything else in the process.
-/
theorem reserved_is_bounded_set (process : Process) (calls : List ThreadId)
    : ∃ history after,
        (attempt calls).run { process with reserved := .empty } = (some history, after)
        ∧ history.map Prod.fst = calls
        ∧ after.reserved.count = (accepted history).card
        ∧ (accepted history).card ≤ 10
        ∧ (∀ thread, after.reserved.contains thread = true ↔ thread ∈ accepted history)
        ∧ (∀ first second : Fin reservedCapacity,
            after.reserved.slots.get first = after.reserved.slots.get second →
            after.reserved.slots.get first ≠ .null → first = second)
        ∧ ∀ next, ∃ last,
            (reserve next).run after = (some (answer (accepted history) next), last)
            ∧ (next ∈ accepted history → last = after)
            ∧ (answer (accepted history) next ≠ .ok () → last.reserved = after.reserved)
            ∧ others last = others after := by
  have start : ({ process with reserved := .empty } : Process).reserved.Shows [] :=
    Threads.Reserved.shows_empty
  obtain ⟨history, after, threads, ends, asked, shows, same⟩ := attempt_run calls start
  have holds : threads.toFinset = accepted history :=
    same.trans (Finset.empty_union (accepted history))
  have member (thread : ThreadId) : thread ∈ accepted history ↔ thread ∈ threads := by
    rw [← holds, List.mem_toFinset]
  have card : (accepted history).card = threads.length := by
    rw [← holds, List.toFinset_card_of_nodup shows.distinct]
  refine ⟨history, after, ends, asked, ?_, ?_, ?_, ?_, fun next => ?_⟩
  · rw [card, shows.count_eq]
  · rw [card]
    exact shows.fits
  · intro thread
    rw [member, shows.contains_iff]
  · exact fun first second => shows.slot_inj
  · obtain ⟨last, answered, _⟩ := reserve_run shows next
    rw [holds] at answered
    refine ⟨last, answered, ?_, ?_, ?_⟩
    · intro known
      have among := (member next).mp known
      have named : next ≠ .null := fun null => shows.named (null ▸ among)
      rw [reserve_known named (shows.contains_iff.mpr among)] at answered
      exact (Prod.mk.inj answered).2.symm
    · intro refused
      cases outcome : answer (accepted history) next with
      | ok => exact absurd outcome refused
      | error failure => exact reserve_refused (outcome ▸ answered)
    · exact ((reserve_neverTouches next).leaves after).run_eq answered

end Reservation

end CrashCapture
