import CrashCapture.Descriptor.Writer
import CrashCapture.Proofs.Descriptor.Steady

/-! A buffered writer keeps one stream. Whatever the size of its buffer and however the
kernel cuts up its requests, the bytes that the descriptor has received followed by the
pending ones are all that was written, and a flush or the writer's end sends out the rest.
-/

namespace CrashCapture.Descriptor

open Log (Noted)

/-- The writer has a buffer of `capacity` bytes over an open, steady descriptor, and the
descriptor's bytes followed by the pending ones are `stream`.
-/
structure Writer.Streams (writer : Writer) (capacity : Nat) (stream : List UInt8)
    : Prop where
  capacity_eq : writer.capacity = capacity
  fits : writer.pending.length ≤ capacity
  opened : 0 ≤ writer.sink.number
  steady : writer.sink.Steady
  accounted : writer.sink.received ++ writer.pending = stream

-----------------------------------------------------------------------------------------
-- Every way to write extends the stream by its data
-----------------------------------------------------------------------------------------

/-- A flush moves what is pending over to the descriptor, behind what is there. -/
theorem Writer.Streams.flush {writer : Writer} {capacity : Nat} {stream : List UInt8}
    (streams : writer.Streams capacity stream)
    : ∃ after,
        writer.flush.value = (.ok (), after)
        ∧ after.Streams capacity stream
        ∧ after.pending = [] := by
  have opened := streams.opened
  by_cases empty : writer.pending = []
  · exact ⟨writer, by simp [Writer.flush, empty], streams, empty⟩
  · obtain ⟨sink, taken, steady, number, received⟩ := streams.steady.write writer.pending
    refine ⟨{ writer with pending := [], sink := sink }, ?_, ?_, rfl⟩
    · have goesOut : ¬ (writer.sink.number < 0 ∨ writer.pending = []) := by
        simp only [empty, or_false]
        omega
      simp only [Writer.flush, if_neg goesOut, Noted.value_bind, taken, Noted.value_pure]
    · exact {
        capacity_eq := streams.capacity_eq
        fits := Nat.zero_le _
        opened := by rw [number]; exact opened
        steady := steady
        accounted := by rw [received, List.append_nil]; exact streams.accounted
      }

/-- Data that finds the buffer empty, or room behind what is pending, is placed. Only data
that goes to the descriptor directly needs the empty buffer: it must not overtake anything.
-/
theorem Writer.Streams.place {writer : Writer} {capacity : Nat} {stream : List UInt8}
    (streams : writer.Streams capacity stream) (data : List UInt8)
    (ready : writer.pending = [] ∨ writer.pending.length + data.length ≤ capacity)
    : ∃ after,
        (writer.place data).value = (.ok (), after)
        ∧ after.Streams capacity (stream ++ data) := by
  have sized := streams.capacity_eq
  by_cases large : writer.capacity < data.length
  · have empty : writer.pending = [] := ready.resolve_right (by omega)
    obtain ⟨sink, taken, steady, number, received⟩ := streams.steady.write data
    refine ⟨{ writer with sink := sink }, ?_, ?_⟩
    · simp only [Writer.place, if_pos large, Noted.value_bind, taken, Noted.value_pure]
      rfl
    · exact {
        capacity_eq := sized
        fits := streams.fits
        opened := by rw [number]; exact streams.opened
        steady := steady
        accounted := by
          rw [received, ← streams.accounted, empty, List.append_nil, List.append_nil]
      }
  · have room : writer.pending.length + data.length ≤ writer.capacity := by
      rcases ready with empty | room
      · simp only [empty, List.length_nil]
        omega
      · omega
    refine ⟨{ writer with pending := writer.pending ++ data }, ?_, ?_⟩
    · simp only [Writer.place, if_neg large, if_neg (Nat.not_lt.mpr room),
        Noted.value_pure]
    · exact {
        capacity_eq := sized
        fits := by simp only [List.length_append]; omega
        opened := streams.opened
        steady := streams.steady
        accounted := by rw [← List.append_assoc, streams.accounted]
      }

/-- A write extends the stream. Witness: either the data fits behind what is pending, or the
flush before it leaves the buffer empty.
-/
theorem Writer.Streams.write {writer : Writer} {capacity : Nat} {stream : List UInt8}
    (streams : writer.Streams capacity stream) (data : List UInt8)
    : ∃ after,
        (writer.write data).value = (.ok (), after)
        ∧ after.Streams capacity (stream ++ data) := by
  have sized := streams.capacity_eq
  have fits := streams.fits
  by_cases full : writer.capacity - writer.pending.length < data.length
  · obtain ⟨flushed, sent, flushedStreams, empty⟩ := streams.flush
    obtain ⟨after, placed, afterStreams⟩ := flushedStreams.place data (.inl empty)
    refine ⟨after, ?_, afterStreams⟩
    simp only [Writer.write, if_pos full, Noted.value_bind, sent, placed]
  · obtain ⟨after, placed, afterStreams⟩ := streams.place data (.inr (by omega))
    exact ⟨after, by rw [Writer.write, if_neg full, placed], afterStreams⟩

/-- Fragments extend the stream one after another, by induction on them. -/
theorem Writer.Streams.writeAll {writer : Writer} {capacity : Nat} {stream : List UInt8}
    (streams : writer.Streams capacity stream) (fragments : List (List UInt8))
    : ∃ after,
        (writer.writeAll fragments).value = (.ok (), after)
        ∧ after.Streams capacity (stream ++ fragments.flatten) := by
  induction fragments generalizing writer stream with
  | nil => exact ⟨writer, rfl, by simpa using streams⟩
  | cons fragment rest ih =>
      obtain ⟨next, written, nextStreams⟩ := streams.write fragment
      obtain ⟨after, all, afterStreams⟩ := ih nextStreams
      refine ⟨after, ?_, ?_⟩
      · simp only [Writer.writeAll, Noted.value_bind, written, all]
      · rw [List.flatten_cons, ← List.append_assoc]
        exact afterStreams

-----------------------------------------------------------------------------------------
-- Runs of calls
-----------------------------------------------------------------------------------------

/-- A call on a writer that stays in use. Formatted text arrives in fragments. -/
inductive WriteCall where
  | write (data : List UInt8)
  | print (fragments : List String)
  | flush

/-- What a call adds to the stream. -/
def WriteCall.data : WriteCall → List UInt8
  | .write data => data
  | .print fragments => (fragments.map Text.bytes).flatten
  | .flush => []

def Writer.perform (writer : Writer) : WriteCall → Except WriteFault Unit × Writer
  | .write data => (writer.write data).value
  | .print fragments => (writer.writeAll (fragments.map Text.bytes)).value
  | .flush =>
    let flushed := writer.flush.value
    (flushed.1.mapError .failed, flushed.2)

/-- The answers to calls made one after another, and the writer after them. -/
def Writer.run (writer : Writer) : List WriteCall → List (Except WriteFault Unit) × Writer
  | [] => ([], writer)
  | call :: rest =>
    let (result, next) := writer.perform call
    let (results, after) := run next rest
    (result :: results, after)

theorem Writer.Streams.perform {writer : Writer} {capacity : Nat} {stream : List UInt8}
    (streams : writer.Streams capacity stream) (call : WriteCall)
    : ∃ after,
        writer.perform call = (.ok (), after)
        ∧ after.Streams capacity (stream ++ call.data) := by
  cases call with
  | write data => exact streams.write data
  | print fragments => exact streams.writeAll (fragments.map Text.bytes)
  | flush =>
      obtain ⟨after, sent, afterStreams, _⟩ := streams.flush
      refine ⟨after, ?_, ?_⟩
      · simp only [Writer.perform, sent]
        rfl
      · simpa only [WriteCall.data, List.append_nil] using afterStreams

/-- Every call of a run succeeds and extends the stream by its data, by induction on the
calls.
-/
theorem Writer.Streams.run {writer : Writer} {capacity : Nat} {stream : List UInt8}
    (streams : writer.Streams capacity stream) (calls : List WriteCall)
    : (writer.run calls).1 = List.replicate calls.length (.ok ())
      ∧ (writer.run calls).2.Streams capacity
          (stream ++ calls.flatMap WriteCall.data) := by
  induction calls generalizing writer stream with
  | nil => exact ⟨rfl, by simpa [Writer.run] using streams⟩
  | cons call rest ih =>
      obtain ⟨next, performed, nextStreams⟩ := streams.perform call
      obtain ⟨answered, afterStreams⟩ := ih nextStreams
      simp only [Writer.run, performed]
      refine ⟨?_, ?_⟩
      · rw [answered, List.length_cons, List.replicate_succ]
      · simpa only [List.flatMap_cons, List.append_assoc] using afterStreams

/-- After any calls on a new writer over an open, steady descriptor, no call has failed or
overrun the buffer, the descriptor's bytes followed by the pending ones are all that was
written, and a flush, closing the writer or dropping it delivers exactly that. As the calls
are any, this holds after each one of a longer run.
-/
theorem Writer.run_keeps_one_stream (writer : Writer) (fresh : writer.pending = [])
    (opened : 0 ≤ writer.sink.number) (steady : writer.sink.Steady)
    (calls : List WriteCall)
    : let after := (writer.run calls).2
      let stream := writer.sink.received ++ calls.flatMap WriteCall.data
      (writer.run calls).1 = List.replicate calls.length (.ok ())
      ∧ after.sink.received ++ after.pending = stream
      ∧ after.pending.length ≤ after.capacity
      ∧ after.capacity = writer.capacity
      ∧ (∃ flushed,
          after.flush.value = (.ok (), flushed)
          ∧ flushed.pending = []
          ∧ flushed.sink.received = stream)
      ∧ (∃ sink, after.close.value = (.ok (), sink) ∧ sink.received = stream)
      ∧ after.drop.value.received = stream := by
  have starts : writer.Streams writer.capacity writer.sink.received :=
    ⟨rfl, by simp [fresh], opened, steady, by simp [fresh]⟩
  obtain ⟨succeeded, streams⟩ := starts.run calls
  obtain ⟨flushed, sent, flushedStreams, empty⟩ := streams.flush
  have delivered := flushedStreams.accounted
  rw [empty, List.append_nil] at delivered
  have closed : (writer.run calls).2.close.value = (.ok (), flushed.sink) := by
    simp only [Writer.close, Noted.value_bind, sent, Noted.value_pure]
  refine ⟨succeeded, streams.accounted, ?_, streams.capacity_eq,
    ⟨flushed, sent, empty, delivered⟩, ⟨flushed.sink, closed, delivered⟩, ?_⟩
  · rw [streams.capacity_eq]
    exact streams.fits
  · simp only [Writer.drop, Noted.value_bind, closed, Noted.value_pure, delivered]

/-- Two bytes of buffer, and a descriptor that takes one byte and is interrupted once: data
that fills the buffer, that does not fit behind it, and that is larger than it.
-/
theorem Writer.run_keeps_one_stream_of_short_writes
    : let sink : Sink := { number := 7, schedule := [.takes 0, .refuses .interrupted] }
      let writer : Writer := { capacity := 2, sink := sink }
      let calls : List WriteCall := [.write [1, 2], .write [3], .write [4, 5, 6]]
      writer.pending = []
      ∧ 0 ≤ writer.sink.number
      ∧ writer.sink.Steady
      ∧ (writer.run calls).2.drop.value.received = [1, 2, 3, 4, 5, 6] := by
  intro sink writer calls
  have steady : writer.sink.Steady := by
    refine ⟨?_, rfl⟩
    intro answer member
    simp only [writer, sink, List.mem_cons, List.not_mem_nil, or_false] at member
    rcases member with rfl | rfl
    · trivial
    · rfl
  have kept := run_keeps_one_stream writer rfl (by decide) steady calls
  exact ⟨rfl, by decide, steady, kept.2.2.2.2.2.2⟩

end CrashCapture.Descriptor
