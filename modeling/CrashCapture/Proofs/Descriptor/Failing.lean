import CrashCapture.Descriptor.Writer
import CrashCapture.Proofs.Descriptor.Steady
import Mathlib.Algebra.GroupWithZero.Nat

/-! Descriptors that may fail at any request. An attempt to write uses up some of the kernel's
answers and says whether one of them was a failure; a buffered writer whose steps all succeed
has handed over everything, wherever the failures of others may strike.
-/

namespace CrashCapture.Descriptor

open Log (Noted Notice)

-----------------------------------------------------------------------------------------
-- Which answers were used
-----------------------------------------------------------------------------------------

/-- Between the two states the kernel gave some of its answers. When all went well each of them
let writing go on; otherwise one did not, or none was left and the descriptor fails after them.
-/
structure Sink.Served (before after : Sink) (well : Bool) : Prop where
  number : after.number = before.number
  failing : after.failing = before.failing
  answers
    : ∃ used,
        before.schedule = used ++ after.schedule
        ∧ (well = true → ∀ answer ∈ used, answer.Steady)
        ∧ (well = false
            → (∃ answer ∈ used, ¬ answer.Steady)
              ∨ (after.schedule = [] ∧ before.failing ≠ none))

theorem Sink.Served.refl (sink : Sink) : sink.Served sink true :=
  ⟨rfl, rfl, [], rfl, by simp, by simp⟩

theorem Sink.Served.trans {a b c : Sink} {first second : Bool} (left : a.Served b first)
    (right : b.Served c second)
    : a.Served c (first && second) := by
  obtain ⟨used, schedule, well, ill⟩ := left.answers
  obtain ⟨more, later, wellThen, illThen⟩ := right.answers
  refine ⟨right.number.trans left.number, right.failing.trans left.failing, used ++ more,
    ?_, ?_, ?_⟩
  · rw [schedule, later, List.append_assoc]
  · intro both answer member
    obtain ⟨firstWell, secondWell⟩ := Bool.and_eq_true_iff.mp both
    rcases List.mem_append.mp member with earlier | last
    · exact well firstWell answer earlier
    · exact wellThen secondWell answer last
  · intro notBoth
    rcases Bool.and_eq_false_iff.mp notBoth with firstIll | secondIll
    · rcases ill firstIll with ⟨answer, member, bad⟩ | ⟨noneLeft, lasting⟩
      · exact .inl ⟨answer, List.mem_append_left _ member, bad⟩
      · rw [noneLeft] at later
        exact .inr ⟨(List.append_eq_nil_iff.mp later.symm).2, lasting⟩
    · rcases illThen secondIll with ⟨answer, member, bad⟩ | ⟨noneLeft, lasting⟩
      · exact .inl ⟨answer, List.mem_append_right _ member, bad⟩
      · exact .inr ⟨noneLeft, left.failing ▸ lasting⟩

/-- A steady descriptor gives no reason to fail. -/
theorem Sink.Served.not_steady {before after : Sink} (served : before.Served after false)
    : ¬ before.Steady := by
  intro steady
  obtain ⟨used, schedule, _, ill⟩ := served.answers
  rcases ill rfl with ⟨answer, member, bad⟩ | ⟨_, lasting⟩
  · exact bad (steady.answers answer (schedule ▸ List.mem_append_left _ member))
  · exact lasting steady.lasting

/-- An answer that lets writing go on may come before others, whatever was received with it. -/
theorem Sink.Served.after_steady {number : Int} {failing : Option IoError}
    {received more : List UInt8} {schedule : List WriteAnswer} {after : Sink} {well : Bool}
    {answer : WriteAnswer} (served : Sink.Served ⟨number, more, schedule, failing⟩ after well)
    (steady : answer.Steady)
    : Sink.Served ⟨number, received, answer :: schedule, failing⟩ after well := by
  obtain ⟨used, split, good, bad⟩ := served.answers
  refine ⟨served.number, served.failing, answer :: used, congrArg (answer :: ·) split, ?_, ?_⟩
  · intro fine other member
    rcases List.mem_cons.mp member with rfl | later
    · exact steady
    · exact good fine other later
  · intro failed
    rcases bad failed with ⟨other, member, unsteady⟩ | lasting
    · exact .inl ⟨other, List.mem_cons_of_mem _ member, unsteady⟩
    · exact .inr lasting

/-- Any other answer ends the attempt. -/
theorem Sink.Served.unsteady {number : Int} {failing : Option IoError}
    {received : List UInt8} {schedule : List WriteAnswer} {answer : WriteAnswer}
    (bad : ¬ answer.Steady)
    : Sink.Served ⟨number, received, answer :: schedule, failing⟩
        ⟨number, received, schedule, failing⟩ false :=
  ⟨rfl, rfl, [answer], rfl, by simp, fun _ => .inl ⟨answer, List.mem_singleton_self _, bad⟩⟩

/-- An attempt goes well exactly when no answer to it was a failure. Witness: induction along
the schedule.
-/
theorem Sink.writeScheduled_served (number : Int) (failing : Option IoError)
    (received data : List UInt8) (schedule : List WriteAnswer)
    : Sink.Served ⟨number, received, schedule, failing⟩
        (writeScheduled number failing received schedule data).2
        (writeScheduled number failing received schedule data).1.isOk := by
  fun_induction writeScheduled number failing received schedule data with
  | case1 received schedule => exact .refl _
  | case2 received data filled error lasting =>
      exact ⟨rfl, lasting.symm, [], rfl, by simp, fun _ => .inr ⟨rfl, by simp [lasting]⟩⟩
  | case3 received data filled lasting =>
      exact ⟨rfl, lasting.symm, [], rfl, by simp, fun failed => by cases failed⟩
  | case4 received extra schedule data filled ih => exact ih.after_steady trivial
  | case5 received schedule data filled => exact .unsteady id
  | case6 received errno schedule data filled interrupted ih =>
      exact ih.after_steady (Errno.kind_eq_interrupted_iff.mp interrupted)
  | case7 received errno schedule data filled refused =>
      exact .unsteady (mt Errno.kind_eq_interrupted_iff.mpr refused)

/-- Whatever the kernel answers to a write, it is noted when that fails, and the descriptor has
all of the data when it does not.
-/
theorem Sink.write_served (sink : Sink) (data : List UInt8)
    : sink.Served (sink.write data).value.2 (sink.write data).value.1.isOk
      ∧ ((sink.write data).notices = [] ↔ (sink.write data).value.1.isOk = true)
      ∧ ((sink.write data).value.1.isOk = true
          → (sink.write data).value.2.received = sink.received ++ data) := by
  have served :=
    writeScheduled_served sink.number sink.failing sink.received data sink.schedule
  obtain ⟨_, _, rest, accounted, complete⟩ :=
    writeScheduled_sends sink.number sink.failing sink.received data sink.schedule
  refine ⟨by rw [write_value]; exact served, ?_, ?_⟩
  · unfold write
    split
    · simp [Except.isOk, Except.toBool]
    · simp [Except.isOk, Except.toBool]
  · rw [write_value]
    unfold writeQuietly
    intro succeeded
    generalize writeScheduled sink.number sink.failing sink.received sink.schedule data
      = attempt at *
    obtain ⟨result, after⟩ := attempt
    cases result with
    | error error => cases succeeded
    | ok done => simpa [complete.mp rfl] using accounted

-----------------------------------------------------------------------------------------
-- Which answer an attempt fails with
-----------------------------------------------------------------------------------------

namespace WriteAnswer

/-- How many bytes an answer takes, when there are as many. -/
def taken : WriteAnswer → Nat
  | .takes extra => extra + 1
  | .takesNothing | .refuses _ => 0

/-- What an answer makes an attempt fail with; none when writing goes on after it. -/
def failure? : WriteAnswer → Option IoError
  | .takes _ => none
  | .takesNothing => some (.kind .writeZero)
  | .refuses errno => if errno.kind = .interrupted then none else some (.os errno)

theorem failure?_eq_none_iff {answer : WriteAnswer} : answer.failure? = none ↔ answer.Steady := by
  cases answer with
  | takes | takesNothing => simp [failure?, Steady]
  | refuses errno => simp [failure?, Steady]

/-- Of all answers only one makes an attempt fail as one with invalid input does: the number that
the kernel has for arguments that it does not accept.
-/
theorem eq_invalid_of_failure? {answer : WriteAnswer} {error : IoError}
    (failure : answer.failure? = some error) (kind : error.toKind = .invalidInput)
    : error = .os .invalid := by
  cases answer with
  | takes => cases failure
  | takesNothing =>
      cases failure
      cases kind
  | refuses errno =>
      rw [failure?] at failure
      split at failure
      · cases failure
      · cases failure
        exact congrArg IoError.os (Errno.kind_eq_invalidInput_iff.mp kind)

end WriteAnswer

/-- A request for some of the data is answered with a failure: the answers before it let writing
go on and do not take everything.
-/
def Sink.Refuses (sink : Sink) (data : List UInt8) (error : IoError) : Prop :=
  ∃ earlier : List WriteAnswer,
    (∀ answer ∈ earlier, answer.Steady)
    ∧ (earlier.map WriteAnswer.taken).sum < data.length
    ∧ ((∃ answer later,
          sink.schedule = earlier ++ answer :: later ∧ answer.failure? = some error)
        ∨ (sink.schedule = earlier ∧ sink.failing = some error))

/-- A descriptor that fails for good does so with what a request can be answered with. -/
def Sink.FailsByAnswer (sink : Sink) : Prop :=
  ∀ error, sink.failing = some error → ∃ answer : WriteAnswer, answer.failure? = some error

section

variable {number : Int} {failing : Option IoError} {received more data : List UInt8}
  {earlier schedule : List WriteAnswer} {first answer : WriteAnswer} {error : IoError}

/-- The answers before the one that refuses begin with the first that is given. -/
theorem Sink.first_eq_of_refusal
    (refusal : (∃ other later, answer :: schedule = first :: earlier ++ other :: later
        ∧ other.failure? = some error)
      ∨ (answer :: schedule = first :: earlier ∧ failing = some error))
    : first = answer := by
  rcases refusal with ⟨_, _, split, _⟩ | ⟨split, _⟩
  · exact (List.cons.inj split).1.symm
  · exact (List.cons.inj split).1.symm

/-- After an answer that lets writing go on it is what that leaves of the data that matters. -/
theorem Sink.refuses_cons_of_steady (steady : answer.Steady)
    : Refuses ⟨number, received, answer :: schedule, failing⟩ data error
      ↔ Refuses ⟨number, more, schedule, failing⟩ (data.drop answer.taken) error := by
  constructor
  · rintro ⟨_ | ⟨first, earlier⟩, fine, short, ending⟩
    · rcases ending with ⟨other, later, split, failure⟩ | ⟨none, _⟩
      · obtain ⟨rfl, _⟩ := List.cons.inj split
        rw [WriteAnswer.failure?_eq_none_iff.mpr steady] at failure
        cases failure
      · cases none
    · refine ⟨earlier, fun next member => fine next (List.mem_cons_of_mem _ member), ?_, ?_⟩
      · rw [List.map_cons, List.sum_cons, first_eq_of_refusal ending] at short
        rw [List.length_drop]
        omega
      · rcases ending with ⟨other, later, split, failure⟩ | ⟨split, lasting⟩
        · exact .inl ⟨other, later, (List.cons.inj split).2, failure⟩
        · exact .inr ⟨(List.cons.inj split).2, lasting⟩
  · rintro ⟨earlier, fine, short, ending⟩
    refine ⟨answer :: earlier, List.forall_mem_cons.mpr ⟨steady, fine⟩, ?_, ?_⟩
    · rw [List.length_drop] at short
      rw [List.map_cons, List.sum_cons]
      omega
    · rcases ending with ⟨other, later, split, failure⟩ | ⟨split, lasting⟩
      · exact .inl ⟨other, later, congrArg (answer :: ·) split, failure⟩
      · exact .inr ⟨congrArg (answer :: ·) split, lasting⟩

/-- Any other answer is the one that refuses. -/
theorem Sink.refuses_cons_of_failure {fault : IoError} (failure : answer.failure? = some fault)
    (some_data : data ≠ [])
    : Refuses ⟨number, received, answer :: schedule, failing⟩ data error ↔ fault = error := by
  constructor
  · rintro ⟨_ | ⟨first, earlier⟩, fine, short, ending⟩
    · rcases ending with ⟨other, later, split, failed⟩ | ⟨none, _⟩
      · obtain ⟨rfl, _⟩ := List.cons.inj split
        exact Option.some.inj (failure.symm.trans failed)
      · cases none
    · have steady := fine first List.mem_cons_self
      rw [first_eq_of_refusal ending, ← WriteAnswer.failure?_eq_none_iff, failure] at steady
      cases steady
  · rintro rfl
    exact ⟨[], List.forall_mem_nil _, List.length_pos_iff.mpr some_data,
      .inl ⟨answer, schedule, rfl, failure⟩⟩

end

/-- An attempt fails with exactly what some request of it is refused with. Witness: induction
along the schedule.
-/
theorem Sink.writeScheduled_eq_error_iff (number : Int) (failing : Option IoError)
    (received data : List UInt8) (schedule : List WriteAnswer) (error : IoError)
    : (writeScheduled number failing received schedule data).1 = .error error
      ↔ Refuses ⟨number, received, schedule, failing⟩ data error := by
  fun_induction writeScheduled number failing received schedule data with
  | case1 received schedule =>
      constructor
      · intro failed
        cases failed
      · rintro ⟨_, _, short, _⟩
        exact absurd short (Nat.not_lt_zero _)
  | case2 received data filled lasting given =>
      refine ⟨fun failed => ?_, ?_⟩
      · cases failed
        exact ⟨[], List.forall_mem_nil _, List.length_pos_iff.mpr filled, .inr ⟨rfl, given⟩⟩
      · rintro ⟨earlier, _, _, ⟨_, _, split, _⟩ | ⟨_, same⟩⟩
        · simp at split
        · exact congrArg Except.error (Option.some.inj (given.symm.trans same))
  | case3 received data filled given =>
      constructor
      · intro failed
        cases failed
      · rintro ⟨earlier, _, _, ⟨_, _, split, _⟩ | ⟨_, same⟩⟩
        · simp at split
        · cases given.symm.trans same
  | case4 received extra schedule data filled ih =>
      have steady : (WriteAnswer.takes extra).Steady := trivial
      exact ih.trans (refuses_cons_of_steady steady).symm
  | case5 received schedule data filled =>
      rw [refuses_cons_of_failure rfl filled]
      exact ⟨Except.error.inj, congrArg Except.error⟩
  | case6 received errno schedule data filled interrupted ih =>
      have steady : (WriteAnswer.refuses errno).Steady :=
        Errno.kind_eq_interrupted_iff.mp interrupted
      exact ih.trans (refuses_cons_of_steady steady).symm
  | case7 received errno schedule data filled refused =>
      have failure : (WriteAnswer.refuses errno).failure? = some (.os errno) := if_neg refused
      rw [refuses_cons_of_failure failure filled]
      exact ⟨Except.error.inj, congrArg Except.error⟩

theorem Sink.write_eq_error_iff {sink : Sink} {data : List UInt8} {error : IoError}
    : (sink.write data).value.1 = .error error ↔ sink.Refuses data error := by
  rw [write_value]
  exact writeScheduled_eq_error_iff sink.number sink.failing sink.received data sink.schedule error

/-- What a descriptor of the kernel refuses with has the class of invalid input only when it is
the kernel's number for that.
-/
theorem Sink.FailsByAnswer.eq_invalid {sink : Sink} {data : List UInt8} {error : IoError}
    (answers : sink.FailsByAnswer) (refused : sink.Refuses data error)
    (kind : error.toKind = .invalidInput)
    : error = .os .invalid := by
  obtain ⟨_, _, _, ⟨answer, _, _, failure⟩ | ⟨_, lasting⟩⟩ := refused
  · exact WriteAnswer.eq_invalid_of_failure? failure kind
  · obtain ⟨answer, failure⟩ := answers error lasting
    exact WriteAnswer.eq_invalid_of_failure? failure kind

/-- A write fails as invalid input exactly when it is refused with the kernel's number for that.
-/
theorem Sink.FailsByAnswer.write_invalid_iff {sink : Sink} {data : List UInt8}
    (answers : sink.FailsByAnswer)
    : (∃ error, (sink.write data).value.1 = .error error ∧ error.toKind = .invalidInput)
      ↔ sink.Refuses data (.os .invalid) := by
  constructor
  · rintro ⟨error, failed, kind⟩
    have refused := write_eq_error_iff.mp failed
    rwa [answers.eq_invalid refused kind] at refused
  · intro refused
    exact ⟨_, write_eq_error_iff.mpr refused, Errno.kind_eq_invalidInput_iff.mpr rfl⟩

-----------------------------------------------------------------------------------------
-- Steps of a writer
-----------------------------------------------------------------------------------------

/-- The descriptor is open, and what is pending is within the buffer. -/
structure Writer.Ready (writer : Writer) : Prop where
  fits : writer.pending.length ≤ writer.capacity
  opened : 0 ≤ writer.sink.number

/-- An attempt to add data to what goes through a writer. It leaves the writer ready, notes
every failure, and the data follows what went before when there was none.
-/
structure Writer.Attempt (before after : Writer) (data : List UInt8) (notices : List Notice)
    (well : Bool)
    : Prop where
  capacity : after.capacity = before.capacity
  fits : after.pending.length ≤ after.capacity
  served : before.sink.Served after.sink well
  noted : notices = [] ↔ well = true
  complete
    : well = true
      → after.sink.received ++ after.pending = before.sink.received ++ before.pending ++ data

namespace Writer.Attempt

variable {before between after : Writer} {data more : List UInt8}
  {notices others : List Notice} {first second well : Bool}

theorem ready (attempt : Attempt before after data notices well) (ready : before.Ready)
    : after.Ready :=
  ⟨attempt.fits, by rw [attempt.served.number]; exact ready.opened⟩

theorem nothing (ready : before.Ready) : Attempt before before [] [] true :=
  ⟨rfl, ready.fits, .refl _, by simp, by simp⟩

/-- What failed did so for any data. -/
theorem of_failed (attempt : Attempt before after data notices false)
    : Attempt before after more notices false :=
  ⟨attempt.capacity, attempt.fits, attempt.served, attempt.noted, by simp⟩

theorem trans (left : Attempt before between data notices first)
    (right : Attempt between after more others second)
    : Attempt before after (data ++ more) (notices ++ others) (first && second) where
  capacity := right.capacity.trans left.capacity
  fits := right.fits
  served := left.served.trans right.served
  noted := by rw [List.append_eq_nil_iff, left.noted, right.noted, Bool.and_eq_true]
  complete both := by
    obtain ⟨firstWell, secondWell⟩ := Bool.and_eq_true_iff.mp both
    rw [right.complete secondWell, left.complete firstWell, List.append_assoc]

end Writer.Attempt

namespace Writer

variable {writer : Writer}

/-- A flush adds nothing, and when it succeeds nothing is pending. -/
theorem flush_attempt (ready : writer.Ready)
    : writer.Attempt writer.flush.value.2 [] writer.flush.notices writer.flush.value.1.isOk
      ∧ (writer.flush.value.1.isOk = true → writer.flush.value.2.pending = []) := by
  have opened := ready.opened
  by_cases empty : writer.pending = []
  · have still : writer.flush = pure (.ok (), writer) := by simp [flush, empty]
    rw [still]
    exact ⟨.nothing ready, fun _ => empty⟩
  · have goesOut : ¬ (writer.sink.number < 0 ∨ writer.pending = []) := by
      simp only [empty, or_false]
      omega
    obtain ⟨served, noted, complete⟩ := writer.sink.write_served writer.pending
    rw [flush, if_neg goesOut]
    generalize writer.sink.write writer.pending = written at *
    obtain ⟨⟨result, sink⟩, notices⟩ := written
    cases result with
    | error error =>
        refine ⟨⟨rfl, ready.fits, served, by simpa using noted, ?_⟩, ?_⟩ <;>
          exact fun succeeded => by cases succeeded
    | ok done =>
        refine ⟨⟨rfl, Nat.zero_le _, served, by simpa using noted, ?_⟩, fun _ => rfl⟩
        intro succeeded
        simpa using complete succeeded

/-- Data that finds the buffer empty, or room behind what is pending, is placed or refused by
the descriptor.
-/
theorem place_attempt (ready : writer.Ready) (data : List UInt8)
    (room : writer.pending = [] ∨ writer.pending.length + data.length ≤ writer.capacity)
    : writer.Attempt (writer.place data).value.2 data (writer.place data).notices
        (writer.place data).value.1.isOk := by
  by_cases large : writer.capacity < data.length
  · have empty : writer.pending = [] := room.resolve_right (by omega)
    obtain ⟨served, noted, complete⟩ := writer.sink.write_served data
    rw [place, if_pos large]
    generalize writer.sink.write data = written at *
    obtain ⟨⟨result, sink⟩, notices⟩ := written
    cases result with
    | error error =>
        exact {
          capacity := rfl
          fits := ready.fits
          served := served
          noted := by
            rw [Noted.notices_bind, Noted.notices_pure, List.append_nil]
            exact noted
          complete := fun succeeded => by cases succeeded
        }
    | ok done =>
        exact {
          capacity := rfl
          fits := ready.fits
          served := served
          noted := by
            rw [Noted.notices_bind, Noted.notices_pure, List.append_nil]
            exact noted
          complete := fun succeeded => by simpa [empty] using complete succeeded
        }
  · have fits : writer.pending.length + data.length ≤ writer.capacity := by
      rcases room with empty | fits
      · simp only [empty, List.length_nil]
        omega
      · exact fits
    rw [place, if_neg large, if_neg (Nat.not_lt.mpr fits)]
    exact {
      capacity := rfl
      fits := by simpa using fits
      served := .refl _
      noted := by simp [Except.isOk, Except.toBool]
      complete := by simp
    }

/-- A write is an attempt to add its data. Witness: either the data fits behind what is
pending, or a flush comes first; when that fails, nothing is placed.
-/
theorem write_attempt (ready : writer.Ready) (data : List UInt8)
    : writer.Attempt (writer.write data).value.2 data (writer.write data).notices
        (writer.write data).value.1.isOk := by
  by_cases full : writer.capacity - writer.pending.length < data.length
  · obtain ⟨flushing, empty⟩ := flush_attempt ready
    rw [write, if_pos full]
    generalize writer.flush = flushed at *
    obtain ⟨⟨result, after⟩, notices⟩ := flushed
    cases result with
    | error error => simpa [Except.isOk, Except.toBool] using flushing.of_failed
    | ok done =>
        exact flushing.trans (place_attempt (flushing.ready ready) data (.inl (empty rfl)))
  · have fits := ready.fits
    rw [write, if_neg full]
    exact place_attempt ready data (.inr (by omega))

/-- Fragments are added one after another up to the first that fails, by induction on them. -/
theorem writeAll_attempt (ready : writer.Ready) (fragments : List (List UInt8))
    : writer.Attempt (writer.writeAll fragments).value.2 fragments.flatten
        (writer.writeAll fragments).notices (writer.writeAll fragments).value.1.isOk := by
  induction fragments generalizing writer with
  | nil => exact .nothing ready
  | cons fragment rest ih =>
      have writing := write_attempt ready fragment
      rw [writeAll]
      generalize writer.write fragment = written at *
      obtain ⟨⟨result, after⟩, notices⟩ := written
      cases result with
      | error fault => simpa [Except.isOk, Except.toBool] using writing.of_failed
      | ok done => exact writing.trans (ih (writing.ready ready))

end Writer

end CrashCapture.Descriptor
