import CrashCapture.Proofs.Descriptor.Steady

/-! Transfers that go on until they are whole. However a descriptor splits them and however
often it interrupts, what is stored and what is taken from the stream follow from the stream and
the room alone, and what is written arrives once and in order.
-/

namespace CrashCapture.Descriptor

open Log (Noted)

-----------------------------------------------------------------------------------------
-- Filling a destination
-----------------------------------------------------------------------------------------

/-- A destination of some room is filled from the front of the stream, which has to be long
enough for it.
-/
structure Source.Fills (source : Source) (room : Nat) (outcome : Source.Outcome) : Prop where
  steady : outcome.source.Steady
  stored : outcome.stored = source.content.take room
  left : outcome.source.content = source.content.drop room
  result
    : outcome.result
      = if room ≤ source.content.length then .ok () else .error (.kind .unexpectedEof)

/-- What is filled behind a delivered part makes that part longer. -/
theorem Source.Fills.after {source between : Source} {room : Nat} {bytes : List UInt8}
    {outcome : Source.Outcome} (fills : between.Fills (room - bytes.length) outcome)
    (split : bytes ++ between.content = source.content) (fits : bytes.length ≤ room)
    : source.Fills room (outcome.after bytes) where
  steady := fills.steady
  stored := by
    rw [← split, List.take_append, List.take_of_length_le fits, ← fills.stored]
    rfl
  left := by
    rw [← split, List.drop_append, List.drop_of_length_le fits, ← fills.left]
    rfl
  result := by
    have same
        : room - bytes.length ≤ between.content.length ↔ room ≤ source.content.length := by
      rw [← split, List.length_append]
      omega
    exact fills.result.trans (by simp only [same])

/-- At the end of the stream a destination with room is not filled. -/
theorem Source.Fills.at_end {source after : Source} {room : Nat} (steady : after.Steady)
    (ended : source.content = []) (none : after.content = []) (free : room ≠ 0)
    : source.Fills room ⟨[], .error (.kind .unexpectedEof), after⟩ where
  steady := steady
  stored := by rw [ended, List.take_nil]
  left := by rw [ended, List.drop_nil, none]
  result := by
    have short : ¬ room ≤ source.content.length := by
      rw [ended, List.length_nil]
      exact fun fits => free (Nat.le_zero.mp fits)
    rw [if_neg short]

/-- By induction on the room that is left, which every delivery makes less. -/
theorem Source.Steady.readExactly {source : Source} (steady : source.Steady) (room : Nat)
    : source.Fills room (source.readExactly room).value := by
  induction room using Nat.strongRecOn generalizing source with
  | ind room ih =>
      by_cases full : room = 0
      · subst full
        rw [Source.readExactly, if_pos rfl]
        exact ⟨steady, rfl, rfl, rfl⟩
      · obtain ⟨bytes, between, reads, still, split, fits, ended⟩ :=
          steady.readSome (Nat.pos_of_ne_zero full)
        rw [Source.readExactly, if_neg full, reads]
        cases bytes with
        | nil =>
            have nothing := ended rfl
            exact .at_end still nothing (split.trans nothing) full
        | cons byte bytes =>
            have less : room - (byte :: bytes).length < room := by
              rw [List.length_cons]
              omega
            exact (ih _ less still).after split fits

-----------------------------------------------------------------------------------------
-- Reading a line
-----------------------------------------------------------------------------------------

/-- The longest front of a stream that has no newline in it and fits into the room. -/
structure LongestLine (stream : List UInt8) (room : Nat) (line : List UInt8) : Prop where
  front : line <+: stream
  plain : Source.newline ∉ line
  fits : line.length ≤ room
  longest
    : ∀ other, other <+: stream → Source.newline ∉ other → other.length ≤ room → other <+: line

namespace LongestLine

variable {stream line : List UInt8} {room : Nat}

/-- Nothing is the longest where nothing can stand: without room, at the end of the stream, and
in front of a newline.
-/
theorem nil (stops : room = 0 ∨ stream = [] ∨ ∃ rest, stream = Source.newline :: rest)
    : LongestLine stream room [] where
  front := List.nil_prefix
  plain := List.not_mem_nil
  fits := Nat.zero_le _
  longest other front plain fits := by
    rcases stops with rfl | rfl | ⟨rest, rfl⟩
    · exact (List.length_eq_zero_iff.mp (Nat.le_zero.mp fits)).symm ▸ List.prefix_rfl
    · exact front
    · cases other with
      | nil => exact List.prefix_rfl
      | cons byte other =>
          obtain ⟨rfl, _⟩ := List.cons_prefix_cons.mp front
          exact absurd List.mem_cons_self plain

theorem cons {byte : UInt8} (other : byte ≠ Source.newline)
    (longest : LongestLine stream room line)
    : LongestLine (byte :: stream) (room + 1) (byte :: line) where
  front := List.cons_prefix_cons.mpr ⟨rfl, longest.front⟩
  plain among := (List.mem_cons.mp among).elim other.symm longest.plain
  fits := Nat.succ_le_succ longest.fits
  longest candidate front plain fits := by
    cases candidate with
    | nil => exact List.nil_prefix
    | cons first candidate =>
        obtain ⟨rfl, behind⟩ := List.cons_prefix_cons.mp front
        have within := longest.longest candidate behind
          (fun among => plain (List.mem_cons_of_mem _ among)) (Nat.le_of_succ_le_succ fits)
        exact List.cons_prefix_cons.mpr ⟨rfl, within⟩

end LongestLine

/-- A line is stored. It is taken from the stream, with the newline behind it when there is one
that the room did not keep from being looked at.
-/
structure Source.ReadsLine (source : Source) (room : Nat) (outcome : Source.Outcome)
    : Prop where
  steady : outcome.source.Steady
  result : outcome.result = .ok ()
  line : LongestLine source.content room outcome.stored
  short
    : outcome.stored.length < room →
      (source.content = outcome.stored ∧ outcome.source.content = [])
      ∨ source.content = outcome.stored ++ newline :: outcome.source.content
  full
    : outcome.stored.length = room →
      source.content = outcome.stored ++ outcome.source.content

/-- A byte that is not a newline stands in front of the line that is read behind it. -/
theorem Source.ReadsLine.after {source between : Source} {room : Nat} {byte : UInt8}
    {outcome : Source.Outcome} (reads : between.ReadsLine room outcome)
    (split : byte :: between.content = source.content) (other : byte ≠ newline)
    : source.ReadsLine (room + 1) (outcome.after [byte]) where
  steady := reads.steady
  result := reads.result
  line := split ▸ reads.line.cons other
  short less := by
    rcases reads.short (Nat.lt_of_succ_lt_succ less) with ⟨whole, ended⟩ | behind
    · exact .inl ⟨by rw [← split, whole]; rfl, ended⟩
    · exact .inr (by rw [← split, behind]; rfl)
  full all := by
    rw [← split, reads.full (Nat.succ.inj all)]
    rfl

/-- By induction on the room: each byte is a line's first one, or ends the line before it. -/
theorem Source.Steady.readLine {source : Source} (steady : source.Steady) (room : Nat)
    : source.ReadsLine room (source.readLine room).value := by
  induction room generalizing source with
  | zero => exact ⟨steady, rfl, .nil (.inl rfl), nofun, fun _ => rfl⟩
  | succ room ih =>
      obtain ⟨bytes, between, reads, still, split, fits, ended⟩ :=
        steady.readSome Nat.one_pos
      rw [Source.readLine, reads]
      cases bytes with
      | nil =>
          have nothing := ended rfl
          have none : between.content = [] := split.trans nothing
          exact ⟨still, rfl, .nil (.inr (.inl nothing)), fun _ => .inl ⟨nothing, none⟩, nofun⟩
      | cons byte bytes =>
          obtain rfl : bytes = [] := by
            rw [List.length_cons] at fits
            exact List.length_eq_zero_iff.mp (by omega)
          by_cases last : byte = Source.newline
          · subst last
            dsimp only
            rw [if_pos rfl]
            exact ⟨still, rfl, .nil (.inr (.inr ⟨_, split.symm⟩)), fun _ => .inr split.symm,
              nofun⟩
          · dsimp only
            rw [if_neg last]
            exact (ih still).after split last

-----------------------------------------------------------------------------------------
-- The transfers together
-----------------------------------------------------------------------------------------

/-- A descriptor that never refuses for good gives and takes whole transfers, whatever portions
it chooses. A destination is filled just if the stream is long enough for it, and else all that
is left of the stream is consumed; a line is as long as it can be, and the newline behind it is
consumed just if there was room for one byte more; what is written arrives once and in order.
-/
theorem steady_transfers_are_whole {source : Source} {sink : Sink} (reads : source.Steady)
    (writes : sink.Steady)
    : (∀ room, source.Fills room (source.readExactly room).value)
      ∧ (∀ room, source.ReadsLine room (source.readLine room).value)
      ∧ ∀ data, ∃ after,
          sink.writeQuietly data = (.ok (), after)
          ∧ after.Steady
          ∧ after.received = sink.received ++ data := by
  refine ⟨reads.readExactly, reads.readLine, fun data => ?_⟩
  obtain ⟨after, ends, steady, _, received⟩ := writes.write data
  exact ⟨after, (sink.write_value data).symm.trans ends, steady, received⟩

/-- A stream of three bytes with a newline between them, in short portions between which it
interrupts.
-/
theorem steady_transfers_are_whole_of_short_portions
    : let source : Source :=
        { number := 3
          content := [0x61, 0x62, 0x0A, 0x63]
          schedule := [.refuses .interrupted, .gives 0, .refuses .interrupted, .gives 1] }
      let sink : Sink :=
        { number := 4, schedule := [.takes 0, .refuses .interrupted, .takes 1] }
      source.Steady
      ∧ sink.Steady
      ∧ (source.readExactly 3).value.result = .ok ()
      ∧ (source.readExactly 3).value.source.content = [0x63]
      ∧ (source.readExactly 5).value.result = .error (.kind .unexpectedEof)
      ∧ LongestLine source.content 2 (source.readLine 2).value.stored
      ∧ ∃ after, sink.writeQuietly source.content = (.ok (), after)
        ∧ after.received = source.content := by
  intro source sink
  have reads : source.Steady := ⟨by simp [source, ReadAnswer.Steady], rfl, rfl⟩
  have writes : sink.Steady := ⟨by simp [sink, WriteAnswer.Steady], rfl⟩
  obtain ⟨fills, lines, arrives⟩ := steady_transfers_are_whole reads writes
  obtain ⟨after, ends, _, received⟩ := arrives source.content
  exact ⟨reads, writes, (fills 3).result, (fills 3).left, (fills 5).result, (lines 2).line,
    after, ends, received⟩

end CrashCapture.Descriptor
