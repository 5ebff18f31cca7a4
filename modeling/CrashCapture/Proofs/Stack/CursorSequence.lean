import CrashCapture.Stack.Cursor

/-! A cursor is a pointer into a sequence of addresses that does not depend on it: the known
addresses in front, then the return addresses of the chain of frame records. However it is
moved, what it has produced since its last start is the front of that sequence.
-/

namespace CrashCapture.Stack

-----------------------------------------------------------------------------------------
-- The sequence of a stack
-----------------------------------------------------------------------------------------

/-- An address of a backtrace, and whether the frame record it stands in links to itself. -/
structure Sighting where
  address : Address
  closing : Bool
deriving DecidableEq, Repr

/-- The record at a frame pointer when it counts: the pointer is not null, the record can be
read, and neither its link nor its return address is null.
-/
def FrameRecord.counted? (memory : Memory) (fp : Address) : Option FrameRecord :=
  (FrameRecord.read? memory fp).filter fun record =>
    !record.previous.isNull && !record.returnAddress.isNull

/-- The sighting at a place of the chain from `fp` on. Every record leads to the one it links
to, except that one which links to itself is the last.
-/
def chainSighting? (memory : Memory) (fp : Address) : (place : Nat) → Option Sighting
  | 0 =>
    (FrameRecord.counted? memory fp).map fun record =>
      ⟨record.returnAddress, record.previous = fp⟩
  | place + 1 =>
    match FrameRecord.counted? memory fp with
    | none => none
    | some record =>
      if record.previous = fp then none else chainSighting? memory record.previous place

/-- The sighting at a place of a sequence that starts with known addresses and goes on with
a chain, if there is one. Where records form a longer loop the sequence has no end.
-/
def sighting? (memory : Memory) (chain : Option Address)
    : (known : List Address) → (place : Nat) → Option Sighting
  | [], place => chain.bind fun fp => chainSighting? memory fp place
  | address :: _, 0 => some ⟨address, false⟩
  | _ :: known, place + 1 => sighting? memory chain known place

/-- What a cursor is made from: the registers of a thread, or a backtrace taken before. -/
inductive Origin where
  | thread (registers : Registers)
  | captured (addresses : List Address)

namespace Origin

def cursor (maxDepth : Nat) : Origin → Cursor
  | .thread registers => .ofRegisters registers maxDepth
  | .captured addresses => .ofAddresses addresses maxDepth

/-- The addresses that need no look at the stack. -/
def known : Origin → List Address
  | .thread registers =>
    (if registers.pc.isNull then [] else [registers.pc])
      ++ (if registers.lr.isNull then [] else [registers.lr])
  | .captured addresses => addresses.take 100

def chain : Origin → Option Address
  | .thread registers => some registers.fp
  | .captured _ => none

/-- The sequence that belongs to an origin, by place. -/
def sequence (memory : Memory) (origin : Origin) : Nat → Option Sighting :=
  sighting? memory origin.chain origin.known

end Origin

/-- The addresses at the first `count` places of a sequence. -/
def firstAddresses (sequence : Nat → Option Sighting) (count : Nat) : List Address :=
  (List.range count).filterMap fun place => (sequence place).map Sighting.address

/-- Whether the last of `count` sightings stands in a record that links to itself. -/
def EndsClosed (sequence : Nat → Option Sighting) : (count : Nat) → Prop
  | 0 => False
  | place + 1 => ∃ address, sequence place = some ⟨address, true⟩

theorem firstAddresses_succ {sequence : Nat → Option Sighting} {count : Nat}
    {sighting : Sighting} (present : sequence count = some sighting)
    : firstAddresses sequence (count + 1)
      = firstAddresses sequence count ++ [sighting.address] := by
  simp [firstAddresses, List.range_succ, List.filterMap_append, present]

-----------------------------------------------------------------------------------------
-- One step along a trail
-----------------------------------------------------------------------------------------

/-- What is ahead of a trail, by place. -/
def Trail.ahead? (memory : Memory) : Trail → Nat → Option Sighting
  | .ahead known chain => sighting? memory chain known
  | .ended => fun _ => none

/-- On the chain, the next address is the one of the next record that counts. -/
theorem Trail.next?_chain (memory : Memory) (fp : Address)
    : (ahead [] (some fp)).next? memory
      = (FrameRecord.counted? memory fp).map fun record =>
          (record.returnAddress,
            if record.previous = fp then .ended else .ahead [] (some record.previous)) := by
  rw [next?, FrameRecord.counted?]
  cases FrameRecord.read? memory fp with
  | none => rfl
  | some record =>
      cases link : record.previous.isNull <;> cases target : record.returnAddress.isNull
      case false.false =>
        by_cases loop : record.previous = fp <;> simp_all [Option.filter_some]
      all_goals simp [link, target, Option.filter_some]

/-- What a step along a trail does to what is ahead: it takes the sighting at the first place
and moves all others one place down. It ends the trail exactly behind a record that links to
itself.
-/
theorem Trail.next?_ahead? (memory : Memory) (trail : Trail)
    : match trail.next? memory with
      | none => trail.ahead? memory 0 = none
      | some (address, after) =>
        ∃ closing,
          trail.ahead? memory 0 = some ⟨address, closing⟩
          ∧ (∀ place, trail.ahead? memory (place + 1) = after.ahead? memory place)
          ∧ (closing = true ↔ after = .ended) := by
  cases trail with
  | ended => rfl
  | ahead known chain =>
      cases known with
      | cons address known => exact ⟨false, rfl, fun _ => rfl, by simp⟩
      | nil =>
          cases chain with
          | none => rfl
          | some fp =>
              rw [next?_chain]
              cases counted : FrameRecord.counted? memory fp with
              | none => simp [ahead?, sighting?, chainSighting?, counted]
              | some record =>
                  refine ⟨record.previous = fp, ?_, ?_, ?_⟩
                  · simp [ahead?, sighting?, chainSighting?, counted]
                  · intro place
                    by_cases loop : record.previous = fp <;>
                      simp [ahead?, sighting?, chainSighting?, counted, loop]
                  · by_cases loop : record.previous = fp <;> simp [loop]

-----------------------------------------------------------------------------------------
-- The cursor points into the sequence
-----------------------------------------------------------------------------------------

/-- All that a move can do: nothing at the end, giving up at the limit, finding the end of the
trail, or producing its next address.
-/
theorem Cursor.advance_cases (memory : Memory) (cursor : Cursor)
    : (cursor.trail = .ended ∧ cursor.advance memory = (false, cursor))
      ∨ (cursor.trail ≠ .ended
        ∧ cursor.maxDepth ≤ cursor.depth
        ∧ cursor.advance memory = (false, { cursor with gaveUp := true, trail := .ended }))
      ∨ (cursor.trail ≠ .ended
        ∧ cursor.depth < cursor.maxDepth
        ∧ cursor.trail.next? memory = none
        ∧ cursor.advance memory = (false, { cursor with trail := .ended }))
      ∨ ∃ address trail,
          cursor.trail ≠ .ended
          ∧ cursor.depth < cursor.maxDepth
          ∧ cursor.trail.next? memory = some (address, trail)
          ∧ cursor.advance memory
            = (true, { cursor with
                trail := trail
                address := address
                depth := cursor.depth + 1 }) := by
  by_cases finished : cursor.trail = .ended
  · exact .inl ⟨finished, by rw [advance, if_pos finished]⟩
  · by_cases limit : cursor.maxDepth ≤ cursor.depth
    · exact .inr (.inl ⟨finished, limit, by rw [advance, if_neg finished, if_pos limit]⟩)
    · have below : cursor.depth < cursor.maxDepth := by omega
      cases taken : cursor.trail.next? memory with
      | none =>
          refine .inr (.inr (.inl ⟨finished, below, rfl, ?_⟩))
          rw [advance, if_neg finished, if_neg limit, taken]
      | some step =>
          refine .inr (.inr (.inr ⟨step.1, step.2, finished, below, rfl, ?_⟩))
          rw [advance, if_neg finished, if_neg limit, taken]

/-- Why a walk is over: the limit stopped it before its trail was known to have ended, its
last record links to itself, or the sequence has nothing more.
-/
inductive Cursor.Stopped (cursor : Cursor) (sequence : Nat → Option Sighting) : Prop
  | atLimit (told : cursor.gaveUp = true) (limit : cursor.depth = cursor.maxDepth)
    (unclosed : ¬ EndsClosed sequence cursor.depth)
  | atLoop (silent : cursor.gaveUp = false) (closed : EndsClosed sequence cursor.depth)
    (exhausted : sequence cursor.depth = none)
  | atEnd (silent : cursor.gaveUp = false) (below : cursor.depth < cursor.maxDepth)
    (exhausted : sequence cursor.depth = none)

theorem Cursor.Stopped.reason {cursor : Cursor} {sequence : Nat → Option Sighting}
    (stopped : cursor.Stopped sequence)
    : sequence cursor.depth = none ∨ cursor.depth = cursor.maxDepth := by
  cases stopped with
  | atLimit told limit unclosed => exact .inr limit
  | atLoop silent closed exhausted => exact .inl exhausted
  | atEnd silent below exhausted => exact .inl exhausted

/-- A walk that is over tells that it gave up exactly when it stands at its limit and no
record that links to itself ended it before.
-/
theorem Cursor.Stopped.gaveUp_iff {cursor : Cursor} {sequence : Nat → Option Sighting}
    (stopped : cursor.Stopped sequence)
    : cursor.gaveUp = true
      ↔ cursor.depth = cursor.maxDepth ∧ ¬ EndsClosed sequence cursor.depth := by
  cases stopped with
  | atLimit told limit unclosed => exact ⟨fun _ => ⟨limit, unclosed⟩, fun _ => told⟩
  | atLoop silent closed exhausted => simp [silent, closed]
  | atEnd silent below exhausted =>
      simp only [silent, Bool.false_eq_true, false_iff, not_and]
      intro limit
      omega

/-- The cursor has produced the front of the sequence, up to its depth, and as long as its
walk goes on the rest of the sequence is ahead of its trail.
-/
structure Cursor.Points (memory : Memory) (sequence : Nat → Option Sighting) (maxDepth : Nat)
    (cursor : Cursor) (produced : List Address) : Prop where
  limit : cursor.maxDepth = maxDepth
  bounded : cursor.depth ≤ maxDepth
  produces : produced = firstAddresses sequence cursor.depth
  counts : produced.length = cursor.depth
  latest : cursor.address = produced.getLast?.getD .null
  restarts
    : ∃ known chain,
        cursor.start = .ahead known chain ∧ sequence = sighting? memory chain known
  walking
    : cursor.trail ≠ .ended
      → cursor.gaveUp = false
        ∧ ¬ EndsClosed sequence cursor.depth
        ∧ ∀ place, cursor.trail.ahead? memory place = sequence (cursor.depth + place)
  stopped : cursor.trail = .ended → cursor.Stopped sequence

/-- A move produces the next address of the sequence, or ends the walk where the sequence or
the limit ends it.
-/
theorem Cursor.Points.advance {memory : Memory} {sequence : Nat → Option Sighting}
    {maxDepth : Nat} {cursor : Cursor} {produced : List Address}
    (points : cursor.Points memory sequence maxDepth produced)
    : ((cursor.advance memory).1 = false
        ∧ (sequence cursor.depth = none ∨ cursor.depth = maxDepth)
        ∧ (cursor.advance memory).2.trail = .ended
        ∧ (cursor.advance memory).2.Points memory sequence maxDepth produced)
      ∨ ((cursor.advance memory).1 = true
        ∧ (sequence cursor.depth).isSome
        ∧ cursor.depth < maxDepth
        ∧ (cursor.advance memory).2.Points memory sequence maxDepth
            (produced ++ [(cursor.advance memory).2.address])) := by
  have sized := points.limit
  have bounded := points.bounded
  rcases cursor.advance_cases memory with ⟨finished, moved⟩ | ⟨going, reached, moved⟩
    | ⟨going, below, stops, moved⟩ | ⟨address, trail, going, below, taken, moved⟩
  · refine .inl ?_
    rw [moved]
    exact ⟨rfl, sized ▸ (points.stopped finished).reason, finished, points⟩
  · obtain ⟨_, unclosed, _⟩ := points.walking going
    have limit : cursor.depth = cursor.maxDepth := by omega
    refine .inl ?_
    rw [moved]
    exact ⟨rfl, .inr (limit.trans sized), rfl, {
      points with
      walking := fun going => (going rfl).elim
      stopped := fun _ => .atLimit rfl limit unclosed
    }⟩
  · obtain ⟨silent, _, ahead⟩ := points.walking going
    have exhausted := cursor.trail.next?_ahead? memory
    rw [stops, ahead 0] at exhausted
    refine .inl ?_
    rw [moved]
    exact ⟨rfl, .inl exhausted, rfl, {
      points with
      walking := fun going => (going rfl).elim
      stopped := fun _ => .atEnd silent below exhausted
    }⟩
  · obtain ⟨silent, _, ahead⟩ := points.walking going
    have step := cursor.trail.next?_ahead? memory
    rw [taken] at step
    obtain ⟨closing, present, shifted, closes⟩ := step
    rw [ahead 0, Nat.add_zero] at present
    have later (place : Nat)
        : trail.ahead? memory place = sequence (cursor.depth + 1 + place) := by
      rw [← shifted, ahead, Nat.add_right_comm, Nat.add_assoc]
    refine .inr ?_
    rw [moved]
    refine ⟨rfl, by simp [present], by omega, {
      limit := sized
      bounded := by simp only; omega
      produces := by rw [firstAddresses_succ present, ← points.produces]
      counts := by simp [points.counts]
      latest := by simp
      restarts := points.restarts
      walking := ?_
      stopped := ?_
    }⟩
    · intro going
      refine ⟨silent, ?_, later⟩
      rintro ⟨_, closed⟩
      rw [present] at closed
      simp_all
    · intro (ended : trail = .ended)
      refine .atLoop silent ⟨address, ?_⟩ ?_
      · rw [present, closes.mpr ended]
      · have nothing := later 0
        rw [ended] at nothing
        exact nothing.symm

/-- A new cursor points at the first place. -/
theorem Cursor.Points.start (memory : Memory) (known : List Address) (chain : Option Address)
    (maxDepth : Nat)
    : (ofTrail (.ahead known chain) maxDepth).Points memory (sighting? memory chain known)
        maxDepth [] where
  limit := rfl
  bounded := Nat.zero_le _
  produces := rfl
  counts := rfl
  latest := rfl
  restarts := ⟨known, chain, rfl, rfl⟩
  walking _ := ⟨rfl, id, fun place => by rw [ofTrail, Nat.zero_add]; rfl⟩
  stopped finished := by cases finished

theorem Cursor.Points.reset {memory : Memory} {sequence : Nat → Option Sighting}
    {maxDepth : Nat} {cursor : Cursor} {produced : List Address}
    (points : cursor.Points memory sequence maxDepth produced)
    : cursor.reset.Points memory sequence maxDepth [] := by
  obtain ⟨known, chain, origin, rfl⟩ := points.restarts
  rw [Cursor.reset, origin, points.limit]
  exact .start memory known chain maxDepth

/-- Walking to the end produces all that the sequence and the limit still allow. Witness:
induction along the walk, one move at a time.
-/
theorem Cursor.Points.drain {memory : Memory} {sequence : Nat → Option Sighting}
    {maxDepth : Nat} {cursor : Cursor} {produced : List Address}
    (points : cursor.Points memory sequence maxDepth produced)
    : (cursor.drain memory).2.trail = .ended
      ∧ (cursor.drain memory).2.Points memory sequence maxDepth
          (produced ++ (cursor.drain memory).1) := by
  fun_induction Cursor.drain memory cursor generalizing produced with
  | case1 cursor stopped moved =>
      rcases points.advance with ⟨_, _, finished, after⟩ | ⟨went, _⟩
      · rw [moved] at finished after
        exact ⟨finished, by simpa using after⟩
      · simp [moved] at went
  | case2 cursor next moved rest =>
      rename_i ih
      rcases points.advance with ⟨halted, _⟩ | ⟨_, _, _, after⟩
      · simp [moved] at halted
      · rw [moved] at after
        obtain ⟨finished, drained⟩ := ih after
        exact ⟨finished, by simpa using drained⟩

/-- A walk that is over moves no more, and there is nothing left to collect. -/
theorem Cursor.advance_of_ended (memory : Memory) {cursor : Cursor}
    (finished : cursor.trail = .ended)
    : cursor.advance memory = (false, cursor) := by
  rw [advance, if_pos finished]

theorem Cursor.collect_of_ended (memory : Memory) {cursor : Cursor}
    (finished : cursor.trail = .ended) (capacity : Nat)
    : cursor.collect memory capacity = ([], cursor) := by
  have drained : cursor.drain memory = ([], cursor) := by
    rw [drain]
    split
    · rename_i stopped moved
      rw [advance_of_ended memory finished] at moved
      cases moved
      rfl
    · rename_i next moved
      simp [advance_of_ended memory finished] at moved
  rw [collect, drained, List.take_nil]

/-- Collecting stores what is left of the sequence, as far as there is room, and ends the
walk.
-/
theorem Cursor.Points.collect {memory : Memory} {sequence : Nat → Option Sighting}
    {maxDepth : Nat} {cursor : Cursor} {produced : List Address}
    (points : cursor.Points memory sequence maxDepth produced) (capacity : Nat)
    : (cursor.collect memory capacity).2.trail = .ended
      ∧ (cursor.collect memory capacity).1
        = ((firstAddresses sequence (cursor.collect memory capacity).2.depth).drop
            cursor.depth).take capacity := by
  obtain ⟨finished, drained⟩ := points.drain
  refine ⟨finished, ?_⟩
  simp only [Cursor.collect]
  rw [← drained.produces, ← points.counts, List.drop_left]

-----------------------------------------------------------------------------------------
-- Runs of calls
-----------------------------------------------------------------------------------------

inductive WalkCall where
  | advance
  | reset
  | collect (capacity : Nat)
deriving DecidableEq, Repr

/-- What a call does to a cursor and to the addresses it has produced since its last start. -/
def Cursor.perform (memory : Memory) (walk : Cursor × List Address)
    : WalkCall → Cursor × List Address
  | .advance =>
    let (moved, next) := walk.1.advance memory
    (next, if moved then walk.2 ++ [next.address] else walk.2)
  | .reset => (walk.1.reset, [])
  | .collect capacity =>
    ((walk.1.collect memory capacity).2, walk.2 ++ (walk.1.drain memory).1)

def Cursor.run (memory : Memory) (cursor : Cursor) (calls : List WalkCall)
    : Cursor × List Address :=
  calls.foldl (perform memory) (cursor, [])

theorem Cursor.Points.perform {memory : Memory} {sequence : Nat → Option Sighting}
    {maxDepth : Nat} {walk : Cursor × List Address}
    (points : walk.1.Points memory sequence maxDepth walk.2) (call : WalkCall)
    : (Cursor.perform memory walk call).1.Points memory sequence maxDepth
        (Cursor.perform memory walk call).2 := by
  cases call with
  | advance =>
      rcases points.advance with ⟨moved, _, _, after⟩ | ⟨moved, _, _, after⟩
      · simpa [Cursor.perform, moved] using after
      · simpa [Cursor.perform, moved] using after
  | reset => exact points.reset
  | collect capacity => exact points.drain.2

theorem Cursor.Points.run {memory : Memory} {sequence : Nat → Option Sighting}
    {maxDepth : Nat} {walk : Cursor × List Address}
    (points : walk.1.Points memory sequence maxDepth walk.2) (calls : List WalkCall)
    : (calls.foldl (Cursor.perform memory) walk).1.Points memory sequence maxDepth
        (calls.foldl (Cursor.perform memory) walk).2 := by
  induction calls generalizing walk with
  | nil => exact points
  | cons call rest ih => exact ih (points.perform call)

theorem Origin.cursor_points (memory : Memory) (origin : Origin) (maxDepth : Nat)
    : (origin.cursor maxDepth).Points memory (origin.sequence memory) maxDepth [] := by
  cases origin with
  | thread registers =>
      have known : [registers.pc, registers.lr].filter (fun a => !a.isNull)
          = (thread registers).known := by
        cases pc : registers.pc.isNull <;> cases lr : registers.lr.isNull <;>
          simp [Origin.known, pc, lr]
      rw [cursor, Cursor.ofRegisters, Trail.ofRegisters, known]
      exact .start memory (thread registers).known (some registers.fp) maxDepth
  | captured addresses => exact .start memory (addresses.take 100) none maxDepth

/-- After any calls on a cursor it has produced exactly the first addresses of its sequence,
as many as its depth tells and never more than its limit. A further move fails exactly where
the sequence or the limit ends. Once a walk is over the cursor tells whether it gave up, and
nothing but a reset changes it. Collecting stores the addresses left, and ends the walk.
-/
theorem Cursor.run_points_into_sequence (memory : Memory) (origin : Origin) (maxDepth : Nat)
    (calls : List WalkCall)
    : let cursor := (run memory (origin.cursor maxDepth) calls).1
      let produced := (run memory (origin.cursor maxDepth) calls).2
      let sequence := origin.sequence memory
      cursor.depth ≤ maxDepth
      ∧ produced = firstAddresses sequence cursor.depth
      ∧ produced.length = cursor.depth
      ∧ cursor.address = produced.getLast?.getD .null
      ∧ ((cursor.advance memory).1 = false
          ↔ sequence cursor.depth = none ∨ cursor.depth = maxDepth)
      ∧ ((cursor.advance memory).1 = false → (cursor.advance memory).2.trail = .ended)
      ∧ (cursor.trail = .ended
          → (cursor.gaveUp = true
              ↔ cursor.depth = maxDepth ∧ ¬ EndsClosed sequence cursor.depth)
            ∧ cursor.advance memory = (false, cursor)
            ∧ ∀ capacity, cursor.collect memory capacity = ([], cursor))
      ∧ ∀ capacity,
          (cursor.collect memory capacity).2.trail = .ended
          ∧ (cursor.collect memory capacity).1
            = ((firstAddresses sequence (cursor.collect memory capacity).2.depth).drop
                cursor.depth).take capacity := by
  have points
      : (run memory (origin.cursor maxDepth) calls).1.Points memory (origin.sequence memory)
          maxDepth (run memory (origin.cursor maxDepth) calls).2 :=
    Points.run (origin.cursor_points memory maxDepth) calls
  generalize run memory (origin.cursor maxDepth) calls = walk at points
  intro cursor produced sequence
  refine ⟨points.bounded, points.produces, points.counts, points.latest, ?_, ?_, ?_,
    points.collect⟩
  · rcases points.advance with ⟨moved, reason, _⟩ | ⟨moved, present, below, _⟩
    · exact ⟨fun _ => reason, fun _ => moved⟩
    · have unfinished : cursor.depth ≠ maxDepth := Nat.ne_of_lt below
      simp [cursor, sequence, moved, Option.isSome_iff_ne_none.mp present, unfinished]
  · intro halted
    rcases points.advance with ⟨_, _, finished, _⟩ | ⟨moved, _⟩
    · exact finished
    · simp [cursor, moved] at halted
  · intro finished
    refine ⟨?_, advance_of_ended memory finished, collect_of_ended memory finished⟩
    rw [← points.limit]
    exact (points.stopped finished).gaveUp_iff

end CrashCapture.Stack
