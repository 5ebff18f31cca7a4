import CrashCapture.Proofs.Descriptor.BufferedWriting
import CrashCapture.Proofs.Descriptor.Failing

/-! What the descriptor gets from a buffered writer some of whose attempts fail. An attempt that
fails keeps all that is pending, also the part that the descriptor took before, and the next one
sends that part again. The bytes that are settled by attempts that succeed are those that were
written; what failed attempts got through comes on top.
-/

namespace CrashCapture.Descriptor

open Log (Noted)

/-- A part of some bytes, from their start, that lacks at least the last one. -/
def ProperPart (part whole : List UInt8) : Prop := ∃ rest, rest ≠ [] ∧ part ++ rest = whole

theorem ProperPart.nil {whole : List UInt8} (filled : whole ≠ []) : ProperPart [] whole :=
  ⟨whole, filled, rfl⟩

/-- The descriptor takes a first part of what it is asked to write: all of it when the attempt
succeeds, and less when it does not. Witness: induction along the schedule.
-/
theorem Sink.writeScheduled_takes (number : Int) (failing : Option IoError)
    (received data : List UInt8) (schedule : List WriteAnswer)
    : ∃ part,
        (writeScheduled number failing received schedule data).2.received = received ++ part
        ∧ ((writeScheduled number failing received schedule data).1.isOk = true
          → part = data)
        ∧ ((writeScheduled number failing received schedule data).1.isOk = false
          → ProperPart part data) := by
  fun_induction writeScheduled number failing received schedule data with
  | case1 => exact ⟨[], (List.append_nil _).symm, fun _ => rfl, fun failed => by cases failed⟩
  | case2 received data filled error | case5 received schedule data filled
  | case7 received errno schedule data filled refused =>
      exact ⟨[], (List.append_nil _).symm, (fun ok => by cases ok), fun _ => .nil filled⟩
  | case3 received data => exact ⟨data, rfl, fun _ => rfl, fun failed => by cases failed⟩
  | case4 received extra schedule data filled ih =>
      obtain ⟨part, taken, whole, proper⟩ := ih
      refine ⟨data.take (extra + 1) ++ part, ?_, fun ok => ?_, fun failed => ?_⟩
      · rw [taken, List.append_assoc]
      · rw [whole ok, List.take_append_drop]
      · obtain ⟨rest, some_left, split⟩ := proper failed
        exact ⟨rest, some_left, by rw [List.append_assoc, split, List.take_append_drop]⟩
  | case6 received errno schedule data filled interrupted ih => exact ih

theorem Sink.write_takes (sink : Sink) (data : List UInt8)
    : ∃ part,
        (sink.write data).value.2.received = sink.received ++ part
        ∧ ((sink.write data).value.1.isOk = true → part = data)
        ∧ ((sink.write data).value.1.isOk = false → ProperPart part data) := by
  rw [write_value]
  exact writeScheduled_takes ..

-----------------------------------------------------------------------------------------
-- What one call sends
-----------------------------------------------------------------------------------------

/-- What the descriptor gets from a call: bytes that the writer is done with, and behind them
those that the request got through with which the call failed.
-/
structure Sent where
  settled : List UInt8 := []
  spare : List UInt8 := []

def Sent.all (sent : Sent) : List UInt8 := sent.settled ++ sent.spare

/-- The account of a call that adds fragments. Settled bytes leave the writer and accepted ones
enter it; spare ones do not leave it. They are a part of what is pending after the call, which
will be sent again, or of a fragment that is larger than the buffer and was refused.
-/
structure Writer.Sends (before after : Writer) (fragments : List (List UInt8))
    (accepted : List UInt8) (ok : Bool) (sent : Sent)
    : Prop where
  ready : after.Ready
  capacity : after.capacity = before.capacity
  received : after.sink.received = before.sink.received ++ sent.all
  kept : sent.settled ++ after.pending = before.pending ++ accepted
  done : ok = true → sent.spare = []
  failed
    : ok = false
      → ProperPart sent.spare after.pending
        ∨ after.pending = []
          ∧ ∃ fragment ∈ fragments,
              before.capacity < fragment.length ∧ ProperPart sent.spare fragment

namespace Writer

variable {writer before between after : Writer} {fragments more : List (List UInt8)}
  {accepted others : List UInt8} {ok : Bool} {first second sent : Sent}

theorem Sends.nothing (ready : writer.Ready) : Sends writer writer [] [] true {} :=
  ⟨ready, rfl, (List.append_nil _).symm, (List.append_nil _).symm, fun _ => rfl,
    fun failed => by cases failed⟩

/-- A failure is one of any larger list of fragments. -/
theorem Sends.of_subset (sends : Sends before after fragments accepted ok sent)
    (subset : ∀ fragment ∈ fragments, fragment ∈ more)
    : Sends before after more accepted ok sent := by
  refine { sends with failed := fun failed => (sends.failed failed).imp_right ?_ }
  rintro ⟨nothing, fragment, member, large, part⟩
  exact ⟨nothing, fragment, subset fragment member, large, part⟩

/-- A call may follow one that succeeded. -/
theorem Sends.trans (left : Sends before between fragments accepted true first)
    (right : Sends between after more others ok second)
    : Sends before after (fragments ++ more) (accepted ++ others) ok
        ⟨first.settled ++ second.settled, second.spare⟩ where
  ready := right.ready
  capacity := right.capacity.trans left.capacity
  received := by
    rw [right.received, left.received, Sent.all, left.done rfl]
    simp only [Sent.all, List.append_nil, List.append_assoc]
  kept := by
    rw [List.append_assoc, right.kept, ← List.append_assoc, left.kept, List.append_assoc]
  done := right.done
  failed failed := by
    refine (right.failed failed).imp_right ?_
    rintro ⟨nothing, fragment, member, large, part⟩
    exact ⟨nothing, fragment, List.mem_append_right _ member, left.capacity ▸ large, part⟩

/-- A flush settles all that is pending, or keeps it whatever the descriptor took. -/
theorem flush_sends (ready : writer.Ready)
    : ∃ sent,
        writer.Sends writer.flush.value.2 [] [] writer.flush.value.1.isOk sent
        ∧ (writer.flush.value.1.isOk = true
          → sent.settled = writer.pending ∧ writer.flush.value.2.pending = []) := by
  have opened := ready.opened
  by_cases empty : writer.pending = []
  · have still : writer.flush = pure (.ok (), writer) := by simp [flush, empty]
    rw [still]
    exact ⟨{}, .nothing ready, fun _ => ⟨empty.symm, empty⟩⟩
  · have goesOut : ¬ (writer.sink.number < 0 ∨ writer.pending = []) := by
      simp only [empty, or_false]
      omega
    obtain ⟨part, taken, whole, proper⟩ := writer.sink.write_takes writer.pending
    have number := (writer.sink.write_served writer.pending).1.number
    rw [flush, if_neg goesOut]
    generalize writer.sink.write writer.pending = written at *
    obtain ⟨⟨result, sink⟩, notices⟩ := written
    cases result with
    | error error =>
        refine ⟨⟨[], part⟩, ⟨⟨ready.fits, number ▸ opened⟩, rfl, ?_, ?_, (fun ok => by cases ok),
          fun _ => .inl (proper rfl)⟩, fun ok => by cases ok⟩
        · simpa [Sent.all] using taken
        · exact (List.append_nil _).symm
    | ok done =>
        refine ⟨⟨writer.pending, []⟩, ⟨⟨Nat.zero_le _, number ▸ opened⟩, rfl, ?_, ?_,
          fun _ => rfl, fun failed => by cases failed⟩, fun _ => ⟨rfl, rfl⟩⟩
        · rw [whole rfl] at taken
          simpa [Sent.all] using taken
        · simp

/-- What a writer accepts of data: all of it when it could be added, else nothing. -/
def acceptedIf (ok : Bool) (data : List UInt8) : List UInt8 := if ok then data else []

/-- Data that finds the buffer empty, or room behind what is pending, is put there or settled at
once; when that fails, none of it is accepted.
-/
theorem place_sends (ready : writer.Ready) (data : List UInt8)
    (room : writer.pending = [] ∨ writer.pending.length + data.length ≤ writer.capacity)
    : ∃ sent,
        writer.Sends (writer.place data).value.2 [data]
          (acceptedIf (writer.place data).value.1.isOk data) (writer.place data).value.1.isOk
          sent := by
  by_cases large : writer.capacity < data.length
  · have empty : writer.pending = [] := room.resolve_right (by omega)
    obtain ⟨part, taken, whole, proper⟩ := writer.sink.write_takes data
    have number := (writer.sink.write_served data).1.number
    have opened := ready.opened
    rw [place, if_pos large]
    generalize writer.sink.write data = written at *
    obtain ⟨⟨result, sink⟩, notices⟩ := written
    cases result with
    | error error =>
        refine ⟨⟨[], part⟩, ⟨ready.fits, number ▸ opened⟩, rfl, ?_, ?_, (fun ok => by cases ok),
          fun _ => .inr ⟨empty, data, by simp, large, proper rfl⟩⟩
        · simpa [Sent.all] using taken
        · exact (List.append_nil _).symm
    | ok done =>
        rw [whole rfl] at taken
        refine ⟨⟨data, []⟩, ⟨ready.fits, number ▸ opened⟩, rfl, ?_, ?_, fun _ => rfl,
          fun failed => by cases failed⟩
        · simpa [Sent.all] using taken
        · show data ++ writer.pending = writer.pending ++ data
          rw [empty, List.append_nil, List.nil_append]
  · have fits : writer.pending.length + data.length ≤ writer.capacity := by
      rcases room with empty | fits
      · simp only [empty, List.length_nil]
        omega
      · exact fits
    rw [place, if_neg large, if_neg (Nat.not_lt.mpr fits)]
    exact ⟨{}, ⟨by simpa using fits, ready.opened⟩, rfl, (List.append_nil _).symm, rfl,
      fun _ => rfl, fun failed => by cases failed⟩

theorem write_sends (ready : writer.Ready) (data : List UInt8)
    : ∃ sent,
        writer.Sends (writer.write data).value.2 [data]
          (acceptedIf (writer.write data).value.1.isOk data) (writer.write data).value.1.isOk
          sent := by
  by_cases full : writer.capacity - writer.pending.length < data.length
  · obtain ⟨flushed, flushing, empty⟩ := flush_sends ready
    rw [write, if_pos full]
    generalize writer.flush = attempt at *
    obtain ⟨⟨result, after⟩, notices⟩ := attempt
    cases result with
    | error error => exact ⟨flushed, flushing.of_subset (by simp)⟩
    | ok done =>
        obtain ⟨placed, placing⟩ := place_sends flushing.ready data (.inl (empty rfl).2)
        exact ⟨_, flushing.trans placing⟩
  · have fits := ready.fits
    rw [write, if_neg full]
    exact place_sends ready data (.inr (by omega))

/-- What a writer accepts of fragments: those before the first that cannot be added. -/
def accepts (writer : Writer) : List (List UInt8) → List UInt8
  | [] => []
  | fragment :: rest =>
    match (writer.write fragment).value with
    | (.ok (), after) => fragment ++ after.accepts rest
    | (.error _, _) => []

/-- Fragments are sent one after another up to the first that fails, by induction on them. -/
theorem writeAll_sends (ready : writer.Ready) (fragments : List (List UInt8))
    : ∃ sent,
        writer.Sends (writer.writeAll fragments).value.2 fragments (writer.accepts fragments)
          (writer.writeAll fragments).value.1.isOk sent := by
  induction fragments generalizing writer with
  | nil => exact ⟨{}, .nothing ready⟩
  | cons fragment rest ih =>
      obtain ⟨sent, writing⟩ := write_sends ready fragment
      rw [writeAll, accepts]
      generalize writer.write fragment = written at *
      obtain ⟨⟨result, after⟩, notices⟩ := written
      cases result with
      | error fault => exact ⟨sent, writing.of_subset (by simp)⟩
      | ok done =>
          obtain ⟨later, onward⟩ := ih writing.ready
          exact ⟨_, writing.trans onward⟩

theorem accepts_singleton (writer : Writer) (data : List UInt8)
    : writer.accepts [data] = acceptedIf (writer.write data).value.1.isOk data := by
  simp only [accepts]
  generalize (writer.write data).value = written
  obtain ⟨result, after⟩ := written
  cases result with
  | error fault => rfl
  | ok done => exact List.append_nil data

-----------------------------------------------------------------------------------------
-- Runs of calls
-----------------------------------------------------------------------------------------

end Writer

/-- The fragments that a call adds. -/
def WriteCall.fragments : WriteCall → List (List UInt8)
  | .write data => [data]
  | .print fragments => fragments.map Text.bytes
  | .flush => []

namespace Writer

/-- What a writer accepts in calls made one after another. -/
def accepted (writer : Writer) : List WriteCall → List UInt8
  | [] => []
  | call :: rest => writer.accepts call.fragments ++ (writer.perform call).2.accepted rest

/-- The accounts of calls made one after another. -/
inductive Ledger : Writer → List WriteCall → List Sent → Prop
  | nil {writer : Writer} : Ledger writer [] []
  | cons {writer : Writer} {call : WriteCall} {rest : List WriteCall} {sent : Sent}
      {later : List Sent}
      (sends
        : writer.Sends (writer.perform call).2 call.fragments (writer.accepts call.fragments)
            (writer.perform call).1.isOk sent)
      (onward : Ledger (writer.perform call).2 rest later)
      : Ledger writer (call :: rest) (sent :: later)

theorem perform_sends {writer : Writer} (ready : writer.Ready) (call : WriteCall)
    : ∃ sent,
        writer.Sends (writer.perform call).2 call.fragments (writer.accepts call.fragments)
          (writer.perform call).1.isOk sent := by
  cases call with
  | write data =>
      rw [WriteCall.fragments, accepts_singleton]
      exact write_sends ready data
  | print fragments => exact writeAll_sends ready (fragments.map Text.bytes)
  | flush =>
      obtain ⟨sent, flushing, _⟩ := flush_sends ready
      have same : (writer.perform .flush).1.isOk = writer.flush.value.1.isOk := by
        simp only [perform]
        cases writer.flush.value.1 <;> rfl
      exact ⟨sent, same ▸ flushing⟩

/-- Every call has its account, by induction on the calls. -/
theorem exists_ledger {writer : Writer} (ready : writer.Ready) (calls : List WriteCall)
    : ∃ ledger, Ledger writer calls ledger := by
  induction calls generalizing writer with
  | nil => exact ⟨[], .nil⟩
  | cons call rest ih =>
      obtain ⟨sent, sends⟩ := perform_sends ready call
      obtain ⟨later, onward⟩ := ih sends.ready
      exact ⟨sent :: later, .cons sends onward⟩

variable {writer : Writer} {calls : List WriteCall} {ledger : List Sent}

/-- The descriptor has what the accounts say, one behind the other, and the writer has what was
accepted and is not settled. Witness: induction on the accounts.
-/
theorem Ledger.balances (accounts : Ledger writer calls ledger) (ready : writer.Ready)
    : (writer.run calls).2.Ready
      ∧ (writer.run calls).2.sink.received = writer.sink.received ++ ledger.flatMap Sent.all
      ∧ ledger.flatMap Sent.settled ++ (writer.run calls).2.pending
        = writer.pending ++ writer.accepted calls := by
  induction accounts with
  | nil => exact ⟨ready, (List.append_nil _).symm, (List.append_nil _).symm⟩
  | @cons writer call rest sent later sends onward ih =>
      obtain ⟨still, received, kept⟩ := ih sends.ready
      refine ⟨still, ?_, ?_⟩
      · rw [run, received, sends.received, List.flatMap_cons, List.append_assoc]
      · rw [run, List.flatMap_cons, List.append_assoc, kept, ← List.append_assoc, sends.kept,
          accepted, List.append_assoc]

theorem length_settled_le (ledger : List Sent)
    : (ledger.flatMap Sent.settled).length ≤ (ledger.flatMap Sent.all).length := by
  induction ledger with
  | nil => exact Nat.le_refl _
  | cons sent later ih =>
      simp only [List.flatMap_cons, List.length_append, Sent.all]
      omega

/-- All that was sent is settled exactly when nothing of it is spare. -/
theorem all_eq_settled_iff (ledger : List Sent)
    : ledger.flatMap Sent.all = ledger.flatMap Sent.settled
      ↔ ∀ sent ∈ ledger, sent.spare = [] := by
  induction ledger with
  | nil => simp
  | cons sent later ih =>
      rw [List.flatMap_cons, List.flatMap_cons, Sent.all, List.append_assoc,
        List.append_cancel_left_eq, List.forall_mem_cons, ← ih]
      constructor
      · intro same
        have lengths := congrArg List.length same
        have settled := length_settled_le later
        rw [List.length_append] at lengths
        have nothing : sent.spare = [] := List.eq_nil_of_length_eq_zero (by omega)
        exact ⟨nothing, by simpa [nothing] using same⟩
      · rintro ⟨nothing, same⟩
        rw [nothing, same, List.nil_append]

/-- Every call on a writer, whatever the kernel answers, has its account: a failed one leaves all
that is pending where it is, a first part of which the descriptor may have taken. So the bytes
that the descriptor has, with those still pending, are the ones that were accepted, each once and
in order, exactly when no failed call got any part through; and when closing succeeds this is what
has arrived, and otherwise the parts that failed calls had got through have arrived once more.
-/
theorem run_sends_failed_parts_again (writer : Writer) (ready : writer.Ready)
    (calls : List WriteCall)
    : ∃ ledger,
        Ledger writer calls ledger
        ∧ let after := (writer.run calls).2
          let stream := writer.sink.received ++ writer.pending ++ writer.accepted calls
          after.sink.received = writer.sink.received ++ ledger.flatMap Sent.all
          ∧ writer.sink.received ++ ledger.flatMap Sent.settled ++ after.pending = stream
          ∧ (after.sink.received ++ after.pending = stream
            ↔ ∀ sent ∈ ledger, sent.spare = [])
          ∧ ∀ sink,
              after.close.value = (.ok (), sink)
              → sink.received = after.sink.received ++ after.pending
                ∧ (sink.received = stream ↔ ∀ sent ∈ ledger, sent.spare = []) := by
  obtain ⟨ledger, accounts⟩ := exists_ledger ready calls
  obtain ⟨still, received, kept⟩ := accounts.balances ready
  refine ⟨ledger, accounts, ?_⟩
  dsimp only
  generalize (writer.run calls).2 = after at *
  have once
      : after.sink.received ++ after.pending
          = writer.sink.received ++ writer.pending ++ writer.accepted calls
        ↔ ∀ sent ∈ ledger, sent.spare = [] := by
    rw [received, List.append_assoc, List.append_assoc, ← kept, List.append_cancel_left_eq,
      List.append_cancel_right_eq, all_eq_settled_iff]
  refine ⟨received, by rw [List.append_assoc, kept, List.append_assoc], once,
    fun sink closed => ?_⟩
  obtain ⟨sent, flushing, empties⟩ := flush_sends still
  have arrived : sink.received = after.sink.received ++ after.pending := by
    have done : after.flush.value.1 = .ok () := congrArg Prod.fst closed
    have same : after.flush.value.2.sink = sink := congrArg Prod.snd closed
    rw [done] at flushing empties
    rw [← same, flushing.received, Sent.all, flushing.done rfl, (empties rfl).1, List.append_nil]
  exact ⟨arrived, arrived ▸ once⟩

/-- Two bytes of buffer over a descriptor that takes one byte and then has no room once. -/
def shortOfRoom : Writer where
  capacity := 2
  sink := { number := 7, schedule := [.takes 0, .refuses .noSpace] }

/-- The byte that the failed flush got through is its spare part, and arrives once more. -/
theorem run_sends_failed_parts_again_of_flush
    : ∃ ledger,
        Ledger shortOfRoom [.write [1, 2], .flush, .flush] ledger
        ∧ ledger.flatMap Sent.settled = [1, 2]
        ∧ ledger.flatMap Sent.all = [1, 1, 2]
        ∧ ¬ ∀ sent ∈ ledger, sent.spare = [] := by
  obtain ⟨ledger, accounts, received, accounted, once, _⟩ :=
    run_sends_failed_parts_again shortOfRoom ⟨by decide, by decide⟩
      [.write [1, 2], .flush, .flush]
  have nothing_left : (shortOfRoom.run [.write [1, 2], .flush, .flush]).2.pending = [] := rfl
  refine ⟨ledger, accounts, ?_, received.symm, fun clean => absurd (once.mpr clean) (by decide)⟩
  rw [nothing_left, List.append_nil] at accounted
  exact accounted

/-- After a flush that failed behind the first byte, closing succeeds and sends that byte again.
-/
theorem close_sends_taken_byte_again
    : let flushed := shortOfRoom.run [.write [1, 2], .flush]
      flushed.1 = [.ok (), .error (.failed (.os .noSpace))]
      ∧ flushed.2.sink.received = [1]
      ∧ flushed.2.pending = [1, 2]
      ∧ flushed.2.close.value.1 = .ok ()
      ∧ flushed.2.close.value.2.received = [1, 1, 2] :=
  ⟨rfl, rfl, rfl, rfl, rfl⟩

end Writer

end CrashCapture.Descriptor
