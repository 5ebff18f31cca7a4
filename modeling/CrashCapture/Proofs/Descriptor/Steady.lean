import CrashCapture.Descriptor.Sink
import CrashCapture.Descriptor.Source

/-! Descriptors that never refuse a request for good. The kernel may move as little as one
byte at a time and interrupt as often as it likes; what it moves is always the next part of
the data or of the stream.
-/

namespace CrashCapture.Descriptor

open Log (Noted)

-----------------------------------------------------------------------------------------
-- Writing
-----------------------------------------------------------------------------------------

/-- Whether an answer lets writing go on: a part is taken, or the request was interrupted. -/
def WriteAnswer.Steady : WriteAnswer → Prop
  | .takes _ => True
  | .takesNothing => False
  | .refuses errno => errno = .interrupted

/-- Every request makes progress or is asked again. A run asks finitely often, so a finite
schedule is every behaviour that such a descriptor can have during a run.
-/
structure Sink.Steady (sink : Sink) : Prop where
  answers : ∀ answer ∈ sink.schedule, answer.Steady
  lasting : sink.failing = none

/-- Whatever the kernel answers, the descriptor gets a first part of the data, and all of it
exactly when the attempt succeeds. Witness: induction along the schedule.
-/
theorem Sink.writeScheduled_sends (number : Int) (failing : Option IoError)
    (received data : List UInt8) (schedule : List WriteAnswer)
    : (writeScheduled number failing received schedule data).2.number = number
      ∧ (writeScheduled number failing received schedule data).2.failing = failing
      ∧ ∃ rest,
          (writeScheduled number failing received schedule data).2.received ++ rest
            = received ++ data
          ∧ ((writeScheduled number failing received schedule data).1 = .ok ()
              ↔ rest = []) := by
  fun_induction writeScheduled number failing received schedule data with
  | case1 | case2 | case3 | case5 | case7 => simp_all
  | case4 received extra schedule data filled ih =>
      simpa only [List.append_assoc, List.take_append_drop] using ih
  | case6 received errno schedule data filled interrupted ih => exact ih

/-- An attempt whose answers are all steady succeeds and leaves steady answers behind. -/
theorem Sink.writeScheduled_steady (number : Int) (received data : List UInt8)
    (schedule : List WriteAnswer) (steady : ∀ answer ∈ schedule, answer.Steady)
    : (writeScheduled number none received schedule data).1 = .ok ()
      ∧ ∀ answer ∈ (writeScheduled number none received schedule data).2.schedule,
          answer.Steady := by
  fun_induction writeScheduled number none received schedule data with
  | case1 received schedule => exact ⟨rfl, steady⟩
  | case2 => simp_all
  | case3 received data filled => exact ⟨rfl, by simp⟩
  | case4 received extra schedule data filled ih =>
      exact ih (fun answer member => steady answer (List.mem_cons_of_mem _ member))
  | case5 => exact (steady _ List.mem_cons_self).elim
  | case6 received errno schedule data filled interrupted ih =>
      exact ih (fun answer member => steady answer (List.mem_cons_of_mem _ member))
  | case7 received errno schedule data filled refused =>
      exact (refused (Errno.kind_eq_interrupted_iff.mpr (steady _ List.mem_cons_self))).elim

/-- A notice about a failure changes nothing of the attempt. -/
theorem Sink.write_value (sink : Sink) (data : List UInt8)
    : (sink.write data).value = sink.writeQuietly data := by
  unfold write
  split <;> simp_all

/-- A steady descriptor takes all of what is written, and stays steady. Witness: the account
of any attempt, of which nothing is left over when it succeeds.
-/
theorem Sink.Steady.write {sink : Sink} (steady : sink.Steady) (data : List UInt8)
    : ∃ after,
        (sink.write data).value = (.ok (), after)
        ∧ after.Steady
        ∧ after.number = sink.number
        ∧ after.received = sink.received ++ data := by
  obtain ⟨sameNumber, sameFailing, rest, accounted, complete⟩ :=
    writeScheduled_sends sink.number sink.failing sink.received data sink.schedule
  rw [steady.lasting] at sameNumber sameFailing accounted complete
  obtain ⟨succeeded, later⟩ :=
    writeScheduled_steady sink.number sink.received data sink.schedule steady.answers
  have nothingLeft : rest = [] := complete.mp succeeded
  refine ⟨_, ?_, ⟨later, sameFailing⟩, sameNumber, ?_⟩
  · rw [write_value, writeQuietly, steady.lasting, ← succeeded]
  · simpa only [nothingLeft, List.append_nil] using accounted

-----------------------------------------------------------------------------------------
-- Reading
-----------------------------------------------------------------------------------------

/-- Whether an answer lets reading go on: bytes are given, or the request was interrupted. -/
def ReadAnswer.Steady : ReadAnswer → Prop
  | .gives _ => True
  | .refuses errno => errno = .interrupted

/-- The content is a finite stream with an end, delivered in portions of any size. -/
structure Source.Steady (source : Source) : Prop where
  answers : ∀ answer ∈ source.schedule, answer.Steady
  ends : source.atEnd = none
  whole : source.broken = none

/-- One delivery takes the next bytes of the stream, and none only at its end. -/
theorem Source.Steady.deliver {source : Source} (steady : source.Steady) {room most : Nat}
    (asked : 0 < room) (offered : 0 < most)
    : ∃ bytes after,
        source.deliver room most = (.ok bytes, after)
        ∧ after.Steady
        ∧ bytes ++ after.content = source.content
        ∧ bytes.length ≤ room
        ∧ (bytes = [] → source.content = []) := by
  refine ⟨source.content.take (min room most),
    { source with content := source.content.drop (min room most) }, ?_, ?_, ?_, ?_, ?_⟩
  · simp [Source.deliver, steady.whole, steady.ends]
  · exact ⟨steady.answers, steady.ends, steady.whole⟩
  · exact List.take_append_drop _ _
  · exact Nat.le_trans (List.length_take_le _ _) (Nat.min_le_left _ _)
  · intro nothing
    rcases List.take_eq_nil_iff.mp nothing with zero | empty
    · omega
    · exact empty

/-- So does a read, however often it is interrupted before. Witness: induction on the
schedule, whose first answer that is no interruption is the delivery.
-/
theorem Source.Steady.readSome {source : Source} (steady : source.Steady) {room : Nat}
    (asked : 0 < room)
    : ∃ bytes after,
        source.readSome room = (.ok bytes, after)
        ∧ after.Steady
        ∧ bytes ++ after.content = source.content
        ∧ bytes.length ≤ room
        ∧ (bytes = [] → source.content = []) := by
  have answers := steady.answers
  unfold Source.readSome
  generalize source.schedule = schedule at answers
  induction schedule with
  | nil =>
      have unscheduled : ({ source with schedule := [] } : Source).Steady :=
        ⟨by simp, steady.ends, steady.whole⟩
      exact unscheduled.deliver asked asked
  | cons answer schedule ih =>
      have later := fun next member => answers next (List.mem_cons_of_mem answer member)
      cases answer with
      | gives extra =>
          have next : ({ source with schedule := schedule } : Source).Steady :=
            ⟨later, steady.ends, steady.whole⟩
          exact next.deliver asked (Nat.succ_pos extra)
      | refuses errno =>
          have interrupted : errno.kind = .interrupted :=
            Errno.kind_eq_interrupted_iff.mpr (answers (.refuses errno) List.mem_cons_self)
          rw [Source.readScheduled, if_pos interrupted]
          exact ih later

end CrashCapture.Descriptor
