import CrashCapture.Proofs.Stack.CursorSequence
import CrashCapture.Report.Text

/-! The backtrace of a report. It shows the front of the sequence that the event's cursor
points into, however far the cursor was moved before, with a line for what lies past the limit
of a report and another one for a walk that stopped at its own limit. Only one of the limits
can be the reason why a backtrace is cut short, so that the two lines exclude each other.
-/

namespace CrashCapture

namespace Stack

variable {memory : Memory} {sequence : Nat → Option Sighting}

-----------------------------------------------------------------------------------------
-- Sequences without gaps
-----------------------------------------------------------------------------------------

/-- Behind the end of a sequence there is nothing more. -/
def Gapless (sequence : Nat → Option Sighting) : Prop :=
  ∀ place, sequence place = none → sequence (place + 1) = none

/-- Where a sequence has nothing, it has nothing later, by induction on the distance. -/
theorem Gapless.later (gapless : Gapless sequence) {place later : Nat} (beyond : place ≤ later)
    (ended : sequence place = none)
    : sequence later = none := by
  induction beyond with
  | refl => exact ended
  | step _ ih => exact gapless _ ih

/-- A chain ends at one place and for good, by induction on the records before it. -/
theorem gapless_chainSighting? (memory : Memory) (fp : Address)
    : Gapless (chainSighting? memory fp) := by
  intro place ended
  induction place generalizing fp with
  | zero =>
      have nothing : FrameRecord.counted? memory fp = none := by
        simpa [chainSighting?] using ended
      rw [chainSighting?, nothing]
  | succ place ih =>
      rw [chainSighting?] at ended ⊢
      split
      next => rfl
      next record counted =>
        rw [counted] at ended
        dsimp only at ended
        split
        next => rfl
        next onward =>
          rw [if_neg onward] at ended
          exact ih record.previous ended

/-- There are no gaps between the sightings of a walk. -/
theorem gapless_sighting? (memory : Memory) (chain : Option Address) (known : List Address)
    : Gapless (sighting? memory chain known) := by
  intro place ended
  induction known generalizing place with
  | nil =>
      cases chain with
      | none => rfl
      | some fp => exact gapless_chainSighting? memory fp place ended
  | cons address known ih =>
      cases place with
      | zero => cases ended
      | succ place => exact ih place ended

/-- There are no gaps in what is ahead of a trail. -/
theorem Trail.gapless_ahead? (memory : Memory) (trail : Trail)
    : Gapless (trail.ahead? memory) := by
  cases trail with
  | ended => exact fun _ _ => rfl
  | ahead known chain => exact gapless_sighting? memory chain known

/-- The first address is that of the first sighting. -/
theorem firstAddresses_cons {sighting : Sighting} (first : sequence 0 = some sighting)
    (count : Nat)
    : firstAddresses sequence (count + 1)
      = sighting.address :: firstAddresses (fun place => sequence (place + 1)) count := by
  rw [firstAddresses, List.range_succ_eq_map, List.filterMap_cons, first, List.filterMap_map]
  rfl

/-- Of a sequence that has ended before its first place there are no addresses. -/
theorem Gapless.firstAddresses_nil (gapless : Gapless sequence) (ended : sequence 0 = none)
    (count : Nat)
    : firstAddresses sequence count = [] := by
  refine List.filterMap_eq_nil_iff.mpr fun place _ => ?_
  rw [gapless.later (Nat.zero_le place) ended]
  rfl

/-- The first addresses stand at the places that they have in the sequence, by induction on
how many are asked for.
-/
theorem Gapless.getElem?_firstAddresses (gapless : Gapless sequence) (count index : Nat)
    : (firstAddresses sequence count)[index]?
      = if index < count then (sequence index).map Sighting.address else none := by
  induction count generalizing sequence index with
  | zero => rfl
  | succ count ih =>
      cases first : sequence 0 with
      | none =>
          rw [gapless.firstAddresses_nil first, gapless.later (Nat.zero_le index) first]
          simp
      | some sighting =>
          rw [firstAddresses_cons first]
          cases index with
          | zero => simp [first]
          | succ index =>
              rw [List.getElem?_cons_succ, ih fun place => gapless (place + 1)]
              simp only [Nat.add_lt_add_iff_right]

/-- A longer front begins with the shorter one. -/
theorem Gapless.take_firstAddresses (gapless : Gapless sequence) (limit count : Nat)
    : (firstAddresses sequence count).take limit
      = firstAddresses sequence (min limit count) := by
  refine List.ext_getElem? fun index => ?_
  simp only [List.getElem?_take, gapless.getElem?_firstAddresses, Nat.lt_min]
  by_cases within : index < limit <;> simp [within]

/-- There are more addresses than `place` exactly when the sequence goes on there. -/
theorem Gapless.lt_length_firstAddresses_iff (gapless : Gapless sequence) {place count : Nat}
    : place < (firstAddresses sequence count).length
      ↔ place < count ∧ (sequence place).isSome = true := by
  have present := gapless.getElem?_firstAddresses count place
  rw [← Nat.not_le, ← List.getElem?_eq_none_iff, present]
  by_cases within : place < count <;> simp [within, Option.isSome_iff_ne_none]

-----------------------------------------------------------------------------------------
-- Some steps of a walk
-----------------------------------------------------------------------------------------

namespace Cursor

section Moves

variable {cursor next : Cursor}

/-- A cursor that stops gives no more addresses. -/
theorem take_of_stopped (stopped : cursor.advance memory = (false, next)) (count : Nat)
    : cursor.take memory (count + 1) = ([], next) := by
  rw [take, stopped]

/-- A cursor that stops is drained. -/
theorem drain_of_stopped (stopped : cursor.advance memory = (false, next))
    : cursor.drain memory = ([], next) := by
  rw [drain]
  split <;> simp_all

/-- A cursor that moves gives the address that it moved to. -/
theorem take_of_moved (moved : cursor.advance memory = (true, next)) (count : Nat)
    : cursor.take memory (count + 1)
      = (next.address :: (next.take memory count).1, (next.take memory count).2) := by
  rw [take, moved]

/-- A cursor that moves is drained from where it moved to. -/
theorem drain_of_moved (moved : cursor.advance memory = (true, next))
    : cursor.drain memory
      = (next.address :: (next.drain memory).1, (next.drain memory).2) := by
  rw [drain]
  split <;> simp_all

end Moves

/-- Steps produce the front of what is ahead, as far as the limit allows, by induction on the
number of steps.
-/
theorem take_addresses (memory : Memory) (cursor : Cursor) (count : Nat)
    : (cursor.take memory count).1
      = firstAddresses (cursor.trail.ahead? memory)
          (min count (cursor.maxDepth - cursor.depth)) := by
  have gapless := cursor.trail.gapless_ahead? memory
  induction count generalizing cursor with
  | zero => simp [take, firstAddresses]
  | succ count ih =>
      have step := cursor.trail.next?_ahead? memory
      rcases cursor.advance_cases memory with ⟨finished, stopped⟩ | ⟨_, reached, stopped⟩
        | ⟨_, _, nothing, stopped⟩ | ⟨address, trail, _, below, taken, moved⟩
      · rw [take_of_stopped stopped, finished]
        exact (Gapless.firstAddresses_nil (fun _ _ => rfl) rfl _).symm
      · rw [take_of_stopped stopped, Nat.sub_eq_zero_of_le reached, Nat.min_zero]
        rfl
      · rw [nothing] at step
        rw [take_of_stopped stopped]
        exact (gapless.firstAddresses_nil step _).symm
      · rw [taken] at step
        obtain ⟨closing, first, later, _⟩ := step
        have left
            : min (count + 1) (cursor.maxDepth - cursor.depth)
              = min count (cursor.maxDepth - (cursor.depth + 1)) + 1 := by
          omega
        rw [take_of_moved moved, left, firstAddresses_cons first, funext later]
        exact congrArg (address :: ·) (ih _ (trail.gapless_ahead? memory))

/-- Either all steps that were asked for could be taken and none of them gave up, or the walk
came to its end, giving up at most at its limit. Witness: induction on the number of steps.
-/
theorem take_cases (memory : Memory) (cursor : Cursor) (count : Nat)
    : ((cursor.take memory count).1.length = count
        ∧ (cursor.take memory count).2.gaveUp = cursor.gaveUp)
      ∨ ((cursor.take memory count).1.length < count
        ∧ cursor.take memory count = cursor.drain memory
        ∧ ((cursor.take memory count).2.gaveUp = true
            → cursor.gaveUp = true
              ∨ cursor.maxDepth ≤ cursor.depth + (cursor.take memory count).1.length)) := by
  induction count generalizing cursor with
  | zero => exact .inl ⟨rfl, rfl⟩
  | succ count ih =>
      rcases cursor.advance_cases memory with ⟨_, stopped⟩ | ⟨_, reached, stopped⟩
        | ⟨_, _, _, stopped⟩ | ⟨address, trail, _, _, _, moved⟩
      case' inr.inr.inr =>
        rw [take_of_moved moved, drain_of_moved moved]
        rcases ih _ with ⟨full, silent⟩ | ⟨short, same, gives⟩
        · exact .inl ⟨congrArg (· + 1) full, silent⟩
        · refine .inr ⟨Nat.succ_lt_succ short, by rw [same], fun told => ?_⟩
          refine (gives told).imp_right fun limit => ?_
          dsimp only at limit
          rw [List.length_cons]
          omega
      all_goals
        rw [take_of_stopped stopped, drain_of_stopped stopped]
        refine .inr ⟨Nat.succ_pos _, rfl, fun told => ?_⟩
      · exact .inl told
      · exact .inr reached
      · exact .inl told

/-- A step keeps where the walk started and how deep it may go. -/
theorem advance_keeps_start (memory : Memory) (cursor : Cursor)
    : (cursor.advance memory).2.start = cursor.start
      ∧ (cursor.advance memory).2.maxDepth = cursor.maxDepth := by
  rcases cursor.advance_cases memory with ⟨_, moved⟩ | ⟨_, _, moved⟩ | ⟨_, _, _, moved⟩
    | ⟨_, _, _, _, _, moved⟩ <;> rw [moved] <;> exact ⟨rfl, rfl⟩

/-- Draining keeps where the walk started and how deep it may go. -/
theorem drain_keeps_start (memory : Memory) (cursor : Cursor)
    : (cursor.drain memory).2.start = cursor.start
      ∧ (cursor.drain memory).2.maxDepth = cursor.maxDepth := by
  fun_induction drain memory cursor with
  | case1 cursor stopped moved =>
      have keeps := cursor.advance_keeps_start memory
      rwa [moved] at keeps
  | case2 cursor next moved rest ih =>
      have keeps := cursor.advance_keeps_start memory
      rw [moved] at keeps
      exact ⟨ih.1.trans keeps.1, ih.2.trans keeps.2⟩

/-- No call changes where a cursor starts from, by induction on the calls. -/
theorem run_reset (memory : Memory) (cursor : Cursor) (calls : List WalkCall)
    : (run memory cursor calls).1.reset = cursor.reset
      ∧ (run memory cursor calls).1.maxDepth = cursor.maxDepth := by
  suffices along : ∀ walk : Cursor × List Address,
      walk.1.start = cursor.start → walk.1.maxDepth = cursor.maxDepth →
        (calls.foldl (perform memory) walk).1.start = cursor.start
        ∧ (calls.foldl (perform memory) walk).1.maxDepth = cursor.maxDepth by
    obtain ⟨start, limit⟩ := along (cursor, []) rfl rfl
    refine ⟨?_, limit⟩
    rw [run, reset, reset, start, limit]
  induction calls with
  | nil => exact fun _ start limit => ⟨start, limit⟩
  | cons call rest ih =>
      intro walk start limit
      refine ih _ ?_ ?_
      · cases call with
        | advance => exact (advance_keeps_start memory walk.1).1.trans start
        | reset => exact start
        | collect capacity => exact (drain_keeps_start memory walk.1).1.trans start
      · cases call with
        | advance => exact (advance_keeps_start memory walk.1).2.trans limit
        | reset => exact limit
        | collect capacity => exact (drain_keeps_start memory walk.1).2.trans limit

end Cursor

end Stack

namespace Report

open Stack

-----------------------------------------------------------------------------------------
-- The lines of frames
-----------------------------------------------------------------------------------------

/-- What is said of an address besides itself: the image and the symbol it belongs to. -/
def attribution (table : Image.Table) (demangle : String → String) (address : Address) : String :=
  match (table.resolve? address).value with
  | none => ""
  | some resolution =>
    " " ++ imageText resolution.imageName
      ++ symbolText table.memory resolution address demangle

/-- The line of the frame with a number. -/
def numberedLine (table : Image.Table) (demangle : String → String) (index : Nat)
    (address : Address)
    : String :=
  Digits.decimalAligned 4 index ++ " " ++ address.text ++ attribution table demangle address

/-- The line of a frame has its number and its attribution, whatever is noted on the way. -/
theorem frameLine_value (table : Image.Table) (demangle : String → String) (index : Nat)
    (address : Address)
    : (frameLine table index address demangle).value
      = numberedLine table demangle index address := by
  rw [frameLine, Log.Noted.value_bind, numberedLine, attribution]
  cases (table.resolve? address).value with
  | none => simp
  | some resolution => simp [String.append_assoc]

/-- Frames are numbered up to the limit, and one line stands for all the others, by induction on
the addresses.
-/
theorem frameLines_value (table : Image.Table) (demangle : String → String) (index : Nat)
    (addresses : List Address)
    : (frameLines table demangle index addresses).value
      = (addresses.take (frameLimit - index)).mapIdx
            (fun place => numberedLine table demangle (index + place))
          ++ if frameLimit - index < addresses.length then ["     ..."] else [] := by
  induction addresses generalizing index with
  | nil => simp [frameLines]
  | cons address rest ih =>
      rw [frameLines]
      by_cases full : frameLimit ≤ index
      · simp [full, Nat.sub_eq_zero_of_le full]
      · have room : frameLimit - index = frameLimit - (index + 1) + 1 := by omega
        rw [if_neg full, Log.Noted.value_bind, Log.Noted.value_bind, Log.Noted.value_pure, ih,
          frameLine_value, room, List.take_succ_cons, List.mapIdx_cons, List.length_cons]
        simp only [List.cons_append, Nat.add_zero, Nat.add_lt_add_iff_right, Nat.add_assoc,
          Nat.add_comm 1]

-----------------------------------------------------------------------------------------
-- The walk that a report makes
-----------------------------------------------------------------------------------------

/-- The walk gives the first addresses, as many as the report has room for and one more. -/
theorem walk_frames (memory : Memory) (cursor : Cursor)
    : (walk memory cursor).1
      = firstAddresses (cursor.start.ahead? memory) (min (frameLimit + 1) cursor.maxDepth) :=
  cursor.reset.take_addresses memory (frameLimit + 1)

/-- A report tells that the walk gave up exactly when it does so on its way to the end and no
later than the report.
-/
theorem walk_gaveUp_iff (memory : Memory) (cursor : Cursor)
    : (walk memory cursor).2 = true
      ↔ cursor.maxDepth ≤ frameLimit ∧ cursor.reset.runsOut memory = true := by
  have fresh : cursor.reset.gaveUp = false := rfl
  have bounded : (walk memory cursor).1.length ≤ cursor.maxDepth := by
    rw [walk_frames]
    have count := List.length_filterMap_le (fun place =>
      (cursor.start.ahead? memory place).map Sighting.address)
      (List.range (min (frameLimit + 1) cursor.maxDepth))
    rw [List.length_range] at count
    exact Nat.le_trans count (Nat.min_le_right _ _)
  rcases cursor.reset.take_cases memory (frameLimit + 1)
    with ⟨full, silent⟩ | ⟨short, same, gives⟩
  · have deep : frameLimit + 1 ≤ cursor.maxDepth := full ▸ bounded
    have still : (walk memory cursor).2 = false := silent.trans fresh
    rw [still]
    constructor
    · nofun
    · rintro ⟨shallow, _⟩
      omega
  · have told : (walk memory cursor).2 = cursor.reset.runsOut memory := by
      rw [Cursor.runsOut, ← same]
      rfl
    rw [told]
    refine ⟨fun gaveUp => ⟨?_, gaveUp⟩, And.right⟩
    have limit := (gives (told.trans gaveUp)).resolve_left (by simp [fresh])
    have start : cursor.reset.depth = 0 := rfl
    have deepest : cursor.reset.maxDepth = cursor.maxDepth := rfl
    omega

/-- The backtrace shows the first addresses of the cursor's sequence in their order, as many as
the report and the limit of the cursor allow. A line of dots stands for more addresses than the
report takes; the other line is there when the walk gives up at a limit that lies within the
report. Both never come together, and no call that was made on the cursor before makes a
difference to the text. How names are made readable does not matter.
-/
theorem text_shows_front_of_sequence (table : Image.Table) (event : Event)
    (demangle : String → String)
    : let sequence := event.cursor.start.ahead? table.memory
      let maxDepth := event.cursor.maxDepth
      let shown := firstAddresses sequence (min 64 maxDepth)
      let isCut := 64 < maxDepth ∧ (sequence 64).isSome = true
      let givesUp := maxDepth ≤ 64 ∧ event.cursor.reset.runsOut table.memory = true
      (∀ index,
          shown[index]?
            = if index < min 64 maxDepth then (sequence index).map Sighting.address else none)
        ∧ (text table event demangle).value
          = String.join
              ((headLines event
                  ++ shown.mapIdx (numberedLine table demangle)
                  ++ (if isCut then ["     ..."] else [])
                  ++ (if givesUp then
                    ["     (stopped at depth limit " ++ Digits.decimal maxDepth ++ ")"]
                  else [])).map (· ++ "\n"))
        ∧ ¬ (isCut ∧ givesUp)
        ∧ ∀ memory calls,
            (text table { event with
              cursor := (Cursor.run memory event.cursor calls).1 } demangle).value
              = (text table event demangle).value := by
  intro sequence maxDepth shown isCut givesUp
  have gapless : Gapless sequence := event.cursor.start.gapless_ahead? table.memory
  refine ⟨gapless.getElem?_firstAddresses _, ?_, fun both => ?_, fun memory calls => ?_⟩
  · have frames : ((walk table.memory event.cursor).1).take frameLimit = shown := by
      rw [walk_frames, gapless.take_firstAddresses]
      have both : min frameLimit (min (frameLimit + 1) maxDepth) = min 64 maxDepth := by
        rw [frameLimit]
        omega
      rw [both]
    have more : frameLimit < (walk table.memory event.cursor).1.length ↔ isCut := by
      rw [walk_frames, gapless.lt_length_firstAddresses_iff]
      refine and_congr_left fun _ => ?_
      show 64 < min 65 event.cursor.maxDepth ↔ 64 < event.cursor.maxDepth
      omega
    have ends := walk_gaveUp_iff table.memory event.cursor
    rw [text, Log.Noted.value_bind, Log.Noted.value_pure, lines]
    dsimp only
    rw [Log.Noted.value_bind, Log.Noted.value_pure, frameLines_value, Nat.sub_zero, frames]
    simp only [more, ends, Nat.zero_add, List.append_assoc]
    rfl
  · exact absurd both.1.1 (Nat.not_lt.mpr both.2.1)
  · obtain ⟨reset, limit⟩ := event.cursor.run_reset memory calls
    simp only [text, lines, walk, reset, limit]
    rfl

end Report

end CrashCapture
