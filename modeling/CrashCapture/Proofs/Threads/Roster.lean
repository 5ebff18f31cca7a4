import CrashCapture.Context
import CrashCapture.Memory.Regions
import CrashCapture.Proofs.Threads.Records

/-! The thread list of a crashed capture. It is filled while the threads are visited and
corrected afterwards, when there were too many of them or when they could not be listed. What
comes out is a function of the visited threads and the crashed one alone, whatever the context
held before.
-/

namespace CrashCapture

open Threads

variable {surroundings : Surroundings} {crashed thread : ThreadId} {visited : List ThreadId}

theorem ThreadId.isNull_iff : thread.isNull = true ↔ thread = .null := by
  obtain ⟨number⟩ := thread
  simp [isNull, null]

/-- A listing that fails has visited no thread. -/
theorem Threads.TaskDirectory.visited_of_failed {directory : TaskDirectory} {failure : Failure}
    (failed : directory.list.value.result = .error failure)
    : directory.list.value.visited = [] := by
  unfold TaskDirectory.list at failed ⊢
  split at failed
  next => rfl
  next =>
    split at failed
    next => cases failed
    next => cases failed
    next threads errno walked refused =>
      cases threads with
      | nil => rfl
      | cons => simp at failed

namespace Context

-----------------------------------------------------------------------------------------
-- Filling the list
-----------------------------------------------------------------------------------------

/-- The list shows the threads that were visited, as many as have room, and nothing else. -/
structure Roll.Shows (crashed : ThreadId) (visited : List ThreadId) (roll : Roll) : Prop where
  slots
    : roll.slots.toList
      = visited.take listedThreads ++ List.replicate (listedThreads - visited.length) .null
  count : roll.count = min visited.length listedThreads
  total : roll.total = visited.length
  kept : roll.keptCrashed = true ↔ crashed ∈ visited.take listedThreads

theorem Roll.shows_empty (crashed : ThreadId)
    : Roll.Shows crashed [] { slots := Vector.replicate listedThreads .null } where
  slots := by simp
  count := rfl
  total := rfl
  kept := by simp

/-- Visiting one more thread keeps what the list shows, for a list with room and for a full
one.
-/
theorem Roll.Shows.visit {roll : Roll} (shows : roll.Shows crashed visited) (thread : ThreadId)
    : (roll.visit crashed thread).Shows crashed (visited ++ [thread]) := by
  have counted := shows.count
  unfold Roll.visit
  split
  next room =>
    have short : visited.length < listedThreads := by omega
    have all : visited.take listedThreads = visited := List.take_of_length_le (by omega)
    have more : (visited ++ [thread]).take listedThreads = visited ++ [thread] :=
      List.take_of_length_le (by simpa using Nat.succ_le_of_lt short)
    have place : roll.count = visited.length := by omega
    have left : listedThreads - visited.length = listedThreads - (visited.length + 1) + 1 := by
      omega
    refine ⟨?_, ?_, ?_, ?_⟩
    · rw [Vector.toList_set, shows.slots, all, more, place, left,
        List.set_append_right _ _ (Nat.le_refl _), Nat.sub_self, List.replicate_succ,
        List.set_cons_zero, List.length_append, List.length_singleton]
      simp
    · rw [List.length_append, List.length_singleton]
      dsimp only
      omega
    · rw [List.length_append, List.length_singleton, shows.total]
    · have before := shows.kept
      rw [all] at before
      rw [more, Bool.or_eq_true, before, decide_eq_true_iff, List.mem_append,
        List.mem_singleton, eq_comm]
  next full =>
    have long : listedThreads ≤ visited.length := by omega
    have same : (visited ++ [thread]).take listedThreads = visited.take listedThreads :=
      List.take_append_of_le_length long
    refine ⟨?_, ?_, ?_, ?_⟩
    · rw [same, shows.slots, List.length_append, Nat.sub_eq_zero_of_le long,
        Nat.sub_eq_zero_of_le (Nat.le_add_right_of_le long)]
    · rw [List.length_append]
      dsimp only
      omega
    · rw [List.length_append, List.length_singleton, shows.total]
    · rw [same]
      exact shows.kept

/-- Visits in a row keep it, by induction on them. -/
theorem Roll.Shows.visits {roll : Roll} (shows : roll.Shows crashed visited)
    (threads : List ThreadId)
    : (threads.foldl (Roll.visit crashed) roll).Shows crashed (visited ++ threads) := by
  induction threads generalizing roll visited with
  | nil => simpa using shows
  | cons thread rest ih => simpa using ih (shows.visit thread)

-----------------------------------------------------------------------------------------
-- The finished list
-----------------------------------------------------------------------------------------

/-- The threads that are listed of those visited: the first ones, but the crashed one takes the
last place when it would be missing.
-/
def listedOf (crashed : ThreadId) (visited : List ThreadId) : List ThreadId :=
  if listedThreads < visited.length ∧ crashed ≠ .null ∧ crashed ∉ visited.take listedThreads
  then visited.take (listedThreads - 1) ++ [crashed]
  else visited.take listedThreads

theorem length_listedOf (crashed : ThreadId) (visited : List ThreadId)
    : (listedOf crashed visited).length = min visited.length listedThreads := by
  unfold listedOf
  split
  next many =>
    rw [List.length_append, List.length_take, List.length_singleton, listedThreads] at *
    omega
  next => rw [List.length_take, Nat.min_comm]

/-- No thread is listed twice when none was visited twice. -/
theorem nodup_listedOf (distinct : visited.Nodup) : (listedOf crashed visited).Nodup := by
  unfold listedOf
  split
  next many =>
    obtain ⟨_, _, missing⟩ := many
    rw [List.nodup_append]
    refine ⟨distinct.sublist (List.take_sublist _ _), List.nodup_cons.mpr ⟨nofun, .nil⟩, ?_⟩
    rintro thread first _ last rfl
    rw [List.mem_singleton.mp last] at first
    exact missing (List.take_subset_take_left _ (by decide) first)
  next => exact distinct.sublist (List.take_sublist _ _)

/-- The crashed thread is listed when it was visited. -/
theorem crashed_mem_listedOf (named : crashed ≠ .null) (among : crashed ∈ visited)
    : crashed ∈ listedOf crashed visited := by
  unfold listedOf
  split
  next => simp
  next few =>
    by_contra missing
    have all : visited.length ≤ listedThreads := by
      by_contra many
      exact few ⟨Nat.lt_of_not_le many, named, missing⟩
    exact missing (by rwa [List.take_of_length_le all])

/-- The slots hold some threads and nothing behind them. -/
structure Lists (threads : List ThreadId) (context : Context) : Prop where
  slots
    : context.slots.toList = threads ++ List.replicate (listedThreads - threads.length) .null
  count : context.count = threads.length

theorem Lists.threads_eq {threads : List ThreadId} {context : Context}
    (lists : context.Lists threads)
    : context.threads = threads := by
  rw [Context.threads, lists.slots, lists.count, List.take_left]

/-- The correction of a list that was too short for all the threads. -/
theorem Roll.Shows.corrected {roll : Roll} (shows : roll.Shows crashed visited)
    (many : listedThreads < visited.length)
    : (if !roll.keptCrashed && !crashed.isNull then
        roll.slots.set (listedThreads - 1) crashed (by decide)
      else roll.slots).toList
      = listedOf crashed visited := by
  have full : roll.slots.toList = visited.take listedThreads := by
    rw [shows.slots, Nat.sub_eq_zero_of_le (Nat.le_of_lt many), List.replicate_zero,
      List.append_nil]
  have missing
      : (!roll.keptCrashed && !crashed.isNull) = true
        ↔ crashed ≠ .null ∧ crashed ∉ visited.take listedThreads := by
    rw [Bool.and_eq_true, Bool.not_eq_true', Bool.not_eq_true', ← Bool.not_eq_true,
      ← Bool.not_eq_true, shows.kept, ThreadId.isNull_iff, and_comm]
  unfold listedOf
  simp only [missing, many, true_and]
  split
  next =>
    have last : listedThreads - 1 < (visited.take listedThreads).length := by
      rw [List.length_take, listedThreads] at *
      omega
    rw [Vector.toList_set, full, List.set_eq_take_append_cons_drop, if_pos last, List.take_take,
      List.drop_eq_nil_of_le (by rw [List.length_take]; exact Nat.min_le_left _ _)]
    rfl
  next => exact full

/-- Threads that could be visited are listed, with the crashed one among them. -/
theorem recordThreads_lists (context : Context)
    (blank : context.slots = Vector.replicate listedThreads .null)
    (ended : surroundings.tasks.list.value.result = .ok ())
    : (recordThreads surroundings context).value.Lists
        (listedOf context.thread surroundings.tasks.list.value.visited) := by
  have shows := (Roll.shows_empty context.thread).visits surroundings.tasks.list.value.visited
  rw [← blank, List.nil_append] at shows
  rw [recordThreads, Log.Noted.value_bind, ended]
  dsimp only
  generalize surroundings.tasks.list.value.visited = visited at shows ⊢
  generalize visited.foldl (Roll.visit context.thread) { slots := context.slots } = roll
    at shows ⊢
  have length := length_listedOf context.thread visited
  have count := shows.count.trans length.symm
  rw [shows.total]
  split
  next many =>
    refine ⟨?_, count⟩
    have none_left : listedThreads - (listedOf context.thread visited).length = 0 := by omega
    rw [none_left, List.replicate_zero, List.append_nil]
    exact shows.corrected many
  next few =>
    have listed : listedOf context.thread visited = visited.take listedThreads :=
      if_neg fun many => few many.1
    have left
        : listedThreads - (listedOf context.thread visited).length
          = listedThreads - visited.length := by
      omega
    refine ⟨?_, count⟩
    rw [left, listed]
    exact shows.slots

/-- When no thread could be visited, the crashed one stands alone. -/
theorem recordThreads_alone (context : Context) {failure : Failure}
    (blank : context.slots = Vector.replicate listedThreads .null)
    (failed : surroundings.tasks.list.value.result = .error failure)
    : (recordThreads surroundings context).value.Lists
        (if context.thread = .null then [] else [context.thread]) := by
  rw [recordThreads, Log.Noted.value_bind, failed, TaskDirectory.visited_of_failed failed]
  dsimp only
  rw [List.foldl_nil, blank]
  by_cases null : context.thread = .null
  · rw [if_pos null, null]
    exact ⟨by simp, rfl⟩
  · have named : context.thread.isNull = false := by
      rwa [← Bool.not_eq_true, ThreadId.isNull_iff]
    rw [if_neg null, named]
    refine ⟨?_, rfl⟩
    dsimp only [Log.Noted.value_bind, Log.Noted.value_pure]
    rw [Vector.toList_set, Vector.toList_replicate]
    rfl

/-- Besides the list, nothing of a context changes. -/
theorem recordThreads_keeps (surroundings : Surroundings) (context : Context)
    : let recorded := (recordThreads surroundings context).value
      recorded = { context with slots := recorded.slots, count := recorded.count } := by
  rw [recordThreads, Log.Noted.value_bind]
  dsimp only
  split
  · split <;> rfl
  · rfl

-----------------------------------------------------------------------------------------
-- Captures of a crash
-----------------------------------------------------------------------------------------

end Context

/-- The ways in which a crashed thread is captured. -/
inductive CrashedCapture where
  | ofThread (thread : ThreadId)
  | ofSignal (registers : Option Stack.Registers)
  | ofRegisters (thread : ThreadId) (registers : Stack.Registers)

namespace CrashedCapture

open Context

/-- Captures into a context that may hold an earlier capture. -/
def perform (surroundings : Surroundings) (earlier : Context)
    : CrashedCapture → Log.Noted Context
  | .ofThread thread => captureThread surroundings earlier thread true
  | .ofSignal registers => captureSignal surroundings earlier registers
  | .ofRegisters thread registers => captureRegisters surroundings earlier thread registers

/-- What is known of the crashed thread itself. -/
def known (surroundings : Surroundings) : CrashedCapture → Context
  | .ofThread thread =>
    { thread := thread, crashed := true, current := thread = surroundings.currentThread }
  | .ofSignal registers =>
    { registers := registers.getD {}
      thread := surroundings.currentThread
      crashed := true
      fromSignal := true
      current := true }
  | .ofRegisters thread registers =>
    { registers := registers
      thread := thread
      crashed := true
      fromSignal := true
      current := thread = surroundings.currentThread }

theorem perform_value (surroundings : Surroundings) (earlier : Context)
    (capture : CrashedCapture)
    : (capture.perform surroundings earlier).value
      = (finishCrashed surroundings (capture.known surroundings)).value := by
  cases capture with
  | ofThread thread =>
      simp only [perform, captureThread]
      split <;> rfl
  | ofSignal registers => cases registers <;> rfl
  | ofRegisters thread registers => rfl

theorem slots_known (surroundings : Surroundings) (capture : CrashedCapture)
    : (capture.known surroundings).slots = Vector.replicate listedThreads .null := by
  cases capture <;> rfl

/-- A crashed capture lists the threads that are visited, as many as have room, and the crashed
one takes the last place when it would be missing. It is listed whenever it was visited, no
thread is listed twice, and what the context held before is gone, in the places that are not
used as well. Without any thread to visit the crashed one stands alone. The null handle names
no thread: it is never added.
-/
theorem lists_visited_and_crashed (surroundings : Surroundings) (earlier : Context)
    (capture : CrashedCapture)
    (distinct : surroundings.tasks.list.value.visited.Nodup)
    : let visited := surroundings.tasks.list.value.visited
      let known := capture.known surroundings
      let crashed := known.thread
      let context := (capture.perform surroundings earlier).value
      (match surroundings.tasks.list.value.result with
        | .ok () =>
          context.count = min visited.length 100
          ∧ context.threads
            = (if 100 < visited.length ∧ crashed ≠ .null ∧ crashed ∉ visited.take 100 then
                visited.take 99 ++ [crashed]
              else visited.take 100)
          ∧ (crashed ≠ .null → crashed ∈ visited → crashed ∈ context.threads)
        | .error _ =>
          visited = []
          ∧ context.count = (if crashed = .null then 0 else 1)
          ∧ context.threads = (if crashed = .null then [] else [crashed]))
      ∧ context.threads.Nodup
      ∧ context.slots.toList
        = context.threads ++ List.replicate (100 - context.threads.length) .null
      ∧ context
        = { known with
          slots := context.slots
          count := context.count
          overflowed := (known.cursor 150).runsOut surroundings.memory }
      ∧ ∀ other, capture.perform surroundings other = capture.perform surroundings earlier := by
  intro visited known crashed context
  have blank := capture.slots_known surroundings
  let walked : Context :=
    { known with overflowed := (known.cursor 150).runsOut surroundings.memory }
  have value : context = (recordThreads surroundings walked).value :=
    capture.perform_value surroundings earlier
  have keeps := recordThreads_keeps surroundings walked
  rw [← value] at keeps
  suffices listing : ∃ threads,
      context.Lists threads ∧ threads.Nodup
      ∧ match surroundings.tasks.list.value.result with
        | .ok () => threads = listedOf crashed visited
        | .error _ => visited = [] ∧ threads = if crashed = .null then [] else [crashed] by
    obtain ⟨threads, lists, nodup, which⟩ := listing
    refine ⟨?_, ?_, ?_, keeps, fun other => by cases capture <;> rfl⟩
    · rw [lists.threads_eq, lists.count]
      split
      next ended =>
        rw [ended] at which
        refine ⟨?_, which, fun named among => ?_⟩
        · rw [which]
          exact length_listedOf crashed visited
        · rw [which]
          exact crashed_mem_listedOf named among
      next failure failed =>
        rw [failed] at which
        refine ⟨which.1, ?_, which.2⟩
        rw [which.2]
        split <;> rfl
    · rwa [lists.threads_eq]
    · rw [lists.threads_eq]
      exact lists.slots
  cases ended : surroundings.tasks.list.value.result with
  | ok =>
      have lists := recordThreads_lists walked blank ended
      exact ⟨_, value ▸ lists, nodup_listedOf distinct, rfl⟩
  | error failure =>
      have lists := recordThreads_alone walked blank ended
      refine ⟨_, value ▸ lists, ?_, TaskDirectory.visited_of_failed ended, rfl⟩
      split
      · exact .nil
      · exact List.nodup_cons.mpr ⟨nofun, .nil⟩

/-- A process of a hundred and one threads. -/
def crowded : Surroundings where
  currentThread := ⟨1⟩
  memory := Memory.ofRegions []
  tasks := .ofThreads ((List.range 101).map fun number => .ofNat (number + 1))

theorem nodup_crowd : ((List.range 101).map fun number => ThreadId.ofNat (number + 1)).Nodup := by
  refine List.pairwise_map.mpr (List.pairwise_lt_range.imp_of_mem ?_)
  intro first second firstIn secondIn less same
  rw [List.mem_range] at firstIn secondIn
  have values := congrArg (UInt64.toNat ∘ ThreadId.value) same
  simp only [Function.comp, ThreadId.ofNat, UInt64.toNat_ofNat'] at values
  omega

/-- The last thread is listed in the place of the hundredth, over an earlier capture. -/
theorem crowded_lists_last
    : let earlier : Context :=
        { thread := ⟨9⟩
          slots := Vector.replicate listedThreads ⟨9⟩
          count := 100
          overflowed := true }
      let context := ((CrashedCapture.ofThread ⟨101⟩).perform crowded earlier).value
      crowded.tasks.list.value.visited.Nodup
      ∧ context.count = 100
      ∧ context.threads = (List.range 99).map (fun number => .ofNat (number + 1)) ++ [⟨101⟩] := by
  intro earlier
  dsimp only
  let every : List ThreadId := (List.range 101).map fun number => .ofNat (number + 1)
  have listing : crowded.tasks.list = { value := { visited := every, result := .ok () } } :=
    list_ofThreads every
  have distinct : crowded.tasks.list.value.visited.Nodup := by
    rw [listing]
    exact nodup_crowd
  refine ⟨distinct, ?_⟩
  have lists := lists_visited_and_crashed crowded earlier (.ofThread ⟨101⟩) distinct
  rw [listing] at lists
  obtain ⟨⟨count, threads, _⟩, _⟩ := lists
  have missing : ⟨101⟩ ∉ every.take 100 := by decide
  refine ⟨count.trans (by simp [every]), threads.trans ?_⟩
  rw [if_pos ⟨by decide, by decide, missing⟩]
  rfl

end CrashedCapture

end CrashCapture
