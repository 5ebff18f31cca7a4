import CrashCapture.Descriptor.Reader
import CrashCapture.Proofs.Descriptor.Steady

/-! A buffered reader answers like one without a buffer. Neither the size of the buffer nor
the portions in which the stream arrives can be seen in what the calls return: each gets the
bytes right behind those returned before it.
-/

namespace CrashCapture.Descriptor

open Log (Noted)

-----------------------------------------------------------------------------------------
-- Reading the stream itself
-----------------------------------------------------------------------------------------

/-- A call on a reader, with the room that its destination has. -/
inductive ReadCall where
  | read (count : Nat)
  | readUntil (delimiter : UInt8) (count : Nat)
deriving DecidableEq, Repr

/-- The bytes that a call stored, and whether the last of them is its delimiter. -/
structure ReadReply where
  bytes : List UInt8
  found : Bool
deriving DecidableEq, Repr

/-- How many bytes of a stream stand up to and with its first delimiter, looking at `count`
of them, and whether there is one; without it they are all that was looked at.
-/
def upTo (delimiter : UInt8) (count : Nat) (stream : List UInt8) : Nat × Bool :=
  match (stream.take count).findIdx? (· == delimiter) with
  | some place => (place + 1, true)
  | none => (min count stream.length, false)

/-- How many bytes of a stream a call takes, and whether it finds its delimiter. -/
def ReadCall.extent (stream : List UInt8) : ReadCall → Nat × Bool
  | .read count => (min count stream.length, false)
  | .readUntil delimiter count => upTo delimiter count stream

/-- The replies to calls on the stream itself: each gets the bytes behind those that the
calls before it took.
-/
def unbuffered (stream : List UInt8) : List ReadCall → List ReadReply
  | [] => []
  | call :: rest =>
    let (count, found) := call.extent stream
    ⟨stream.take count, found⟩ :: unbuffered (stream.drop count) rest

/-- A delimiter in a first part of what is looked at is the first one of all. -/
theorem upTo_of_found {delimiter : UInt8} {count part place : Nat} {stream : List UInt8}
    (within : part ≤ count)
    (found : (stream.take part).findIdx? (· == delimiter) = some place)
    : upTo delimiter count stream = (place + 1, true) := by
  have whole : part + (count - part) = count := by omega
  rw [upTo, ← whole, List.take_add, List.findIdx?_append, found]
  rfl

/-- Without one in a first part, the search goes on behind that part. -/
theorem upTo_of_absent {delimiter : UInt8} {count part : Nat} {stream : List UInt8}
    (within : part ≤ count) (present : part ≤ stream.length)
    (absent : (stream.take part).findIdx? (· == delimiter) = none)
    : upTo delimiter count stream
      = (part + (upTo delimiter (count - part) (stream.drop part)).1,
          (upTo delimiter (count - part) (stream.drop part)).2) := by
  have whole : part + (count - part) = count := by omega
  rw [upTo, ← whole, List.take_add, List.findIdx?_append, absent, whole, upTo]
  cases ((stream.drop part).take (count - part)).findIdx? (· == delimiter) with
  | none =>
      simp only [Option.map_none, Option.or_none, List.length_drop]
      congr 1
      omega
  | some place =>
      simp only [Option.map_some, Option.none_or, List.length_take]
      congr 1
      omega

/-- What is cut off a list up to a delimiter, by the place of the delimiter. -/
theorem Reader.untilDelimiter_eq (delimiter : UInt8) (bytes : List UInt8)
    : untilDelimiter delimiter bytes
      = match bytes.findIdx? (· == delimiter) with
        | some place => (bytes.take (place + 1), true)
        | none => (bytes, false) := by
  induction bytes with
  | nil => rfl
  | cons byte bytes ih =>
      rw [List.findIdx?_cons]
      by_cases same : byte = delimiter
      · simp [untilDelimiter, same]
      · have differs : (byte == delimiter) = false := beq_false_of_ne same
        rw [untilDelimiter, if_neg same, ih, differs]
        cases bytes.findIdx? (· == delimiter) <;> rfl

-----------------------------------------------------------------------------------------
-- The window stays in the buffer and in the stream
-----------------------------------------------------------------------------------------

/-- The reader has a buffer of `capacity` bytes over a steady descriptor, and what it has
not returned of the descriptor's stream is `rest`.
-/
structure Reader.Tracks (reader : Reader) (capacity : Nat) (rest : List UInt8)
    : Prop where
  capacity_eq : reader.capacity = capacity
  within : reader.finish ≤ capacity
  steady : reader.source.Steady
  unread : reader.window ++ reader.source.content = rest

theorem Reader.Tracks.borrow {source : Source} (steady : source.Steady) (capacity : Nat)
    : (Reader.borrow source capacity).Tracks capacity source.content :=
  ⟨rfl, Nat.zero_le _, steady, rfl⟩

/-- A refill returns nothing and loses nothing. It leaves the window empty only at the end
of the stream.
-/
theorem Reader.Tracks.fill {reader : Reader} {capacity : Nat} {rest : List UInt8}
    (tracks : reader.Tracks capacity rest) (positive : 0 < capacity)
    : ∃ after,
        reader.fill.value = (.ok (), after)
        ∧ after.Tracks capacity rest
        ∧ (after.window = [] → rest = []) := by
  have sized := tracks.capacity_eq
  have within := tracks.within
  simp only [Reader.finish] at within
  by_cases full : reader.window.length = reader.capacity
  · refine ⟨{ reader with start := 0 }, ?_, ?_, ?_⟩
    · simp only [Reader.fill, if_pos full, Noted.value_pure]
    · exact ⟨sized, by simp only [Reader.finish]; omega, tracks.steady, tracks.unread⟩
    · intro empty
      have nothing : reader.window.length = 0 := List.length_eq_zero_iff.mpr empty
      omega
  · have asked : 0 < reader.capacity - reader.window.length := by omega
    obtain ⟨bytes, source, got, steady, delivered, fits, atEnd⟩ :=
      tracks.steady.readSome asked
    refine ⟨{ reader with start := 0, window := reader.window ++ bytes, source := source },
      ?_, ?_, ?_⟩
    · simp only [Reader.fill, if_neg full, got, Noted.value_pure]
    · refine ⟨sized, ?_, steady, ?_⟩
      · simp only [Reader.finish, List.length_append]
        omega
      · change reader.window ++ bytes ++ source.content = rest
        rw [List.append_assoc, delivered, tracks.unread]
    · intro empty
      obtain ⟨emptyWindow, nothing⟩ := List.append_eq_nil_iff.mp empty
      rw [← tracks.unread, emptyWindow, atEnd nothing]
      rfl

theorem Reader.Tracks.ready {reader : Reader} {capacity : Nat} {rest : List UInt8}
    (tracks : reader.Tracks capacity rest) (positive : 0 < capacity)
    : reader.ready.value.Tracks capacity rest
      ∧ (reader.ready.value.window = [] → rest = []) := by
  by_cases empty : reader.window = []
  · obtain ⟨after, filled, afterTracks, atEnd⟩ := tracks.fill positive
    have value : reader.ready.value = after := by
      simp only [Reader.ready, if_pos empty, Noted.value_bind, filled, Noted.value_pure]
    rw [value]
    exact ⟨afterTracks, atEnd⟩
  · have value : reader.ready.value = reader := by
      simp only [Reader.ready, if_neg empty, Noted.value_pure]
    rw [value]
    exact ⟨tracks, fun nothing => (empty nothing).elim⟩

theorem Reader.Tracks.skip {reader : Reader} {capacity : Nat} {rest : List UInt8}
    (tracks : reader.Tracks capacity rest) {count : Nat}
    (buffered : count ≤ reader.window.length)
    : (reader.skip count).Tracks capacity (rest.drop count) := by
  have within := tracks.within
  simp only [Reader.finish] at within
  refine ⟨tracks.capacity_eq, ?_, tracks.steady, ?_⟩
  · simp only [Reader.skip, Reader.finish, List.length_drop]
    omega
  · rw [← tracks.unread, List.drop_append_of_le_length buffered]
    rfl

/-- The part of a window that a destination of `count` bytes has room for: the next `taken`
bytes of the stream, and at least one.
-/
theorem Reader.Tracks.portion {reader : Reader} {capacity : Nat} {rest : List UInt8}
    (tracks : reader.Tracks capacity rest) {count : Nat} (asked : count ≠ 0)
    (filled : reader.window ≠ [])
    : ∃ taken,
        reader.window.take count = rest.take taken
        ∧ (rest.take taken).length = taken
        ∧ 0 < taken
        ∧ taken ≤ count
        ∧ taken ≤ reader.window.length
        ∧ taken ≤ rest.length := by
  have nonempty := List.length_pos_iff.mpr filled
  have total : reader.window.length ≤ rest.length := by
    rw [← tracks.unread, List.length_append]
    omega
  refine ⟨min count reader.window.length, ?_, ?_, ?_⟩
  · rw [← tracks.unread, List.take_append_of_le_length (Nat.min_le_right _ _),
      ← List.take_eq_take_min]
  · rw [List.length_take]
    omega
  · omega

-----------------------------------------------------------------------------------------
-- Each call answers from the stream
-----------------------------------------------------------------------------------------

/-- A read gets the next bytes of the stream. Witness: induction on the count, which every
portion of the window makes smaller.
-/
theorem Reader.Tracks.read {reader : Reader} {capacity : Nat} {rest : List UInt8}
    (tracks : reader.Tracks capacity rest) (positive : 0 < capacity) (count : Nat)
    : (reader.read count).value.1 = rest.take count
      ∧ (reader.read count).value.2.Tracks capacity (rest.drop count) := by
  induction count using Nat.strongRecOn generalizing reader rest with
  | ind count ih =>
      rw [Reader.read]
      by_cases zero : count = 0
      · simpa [zero] using tracks
      · obtain ⟨filledTracks, atEnd⟩ := tracks.ready positive
        simp only [dif_neg zero, Noted.value_bind]
        generalize reader.ready.value = filled at filledTracks atEnd
        split
        · rename_i empty
          have done : rest = [] := atEnd empty
          subst done
          simpa using filledTracks
        · rename_i byte bytes window
          obtain ⟨taken, part, size, nonempty, bounded, buffered, _⟩ :=
            filledTracks.portion zero (by simp [window])
          obtain ⟨later, laterTracks⟩ :=
            ih (count - taken) (by omega) (filledTracks.skip buffered)
          have whole : taken + (count - taken) = count := by omega
          rw [← window, part, size]
          simp only [Noted.value_bind, Noted.value_pure]
          refine ⟨?_, ?_⟩
          · rw [later, ← List.take_add, whole]
          · rw [List.drop_drop, whole] at laterTracks
            exact laterTracks

/-- A read up to a delimiter gets what stands up to it in the stream, by the same induction;
a portion with the delimiter ends it.
-/
theorem Reader.Tracks.readUntil {reader : Reader} {capacity : Nat} {rest : List UInt8}
    (tracks : reader.Tracks capacity rest) (positive : 0 < capacity) (delimiter : UInt8)
    (count : Nat)
    : (reader.readUntil delimiter count).value.1
        = (rest.take (upTo delimiter count rest).1, (upTo delimiter count rest).2)
      ∧ (reader.readUntil delimiter count).value.2.Tracks capacity
          (rest.drop (upTo delimiter count rest).1) := by
  induction count using Nat.strongRecOn generalizing reader rest with
  | ind count ih =>
      rw [Reader.readUntil]
      by_cases zero : count = 0
      · simpa [zero, upTo] using tracks
      · obtain ⟨filledTracks, atEnd⟩ := tracks.ready positive
        simp only [dif_neg zero, Noted.value_bind]
        generalize reader.ready.value = filled at filledTracks atEnd
        split
        · rename_i empty
          have done : rest = [] := atEnd empty
          subst done
          simpa [upTo] using filledTracks
        · rename_i byte bytes window
          obtain ⟨taken, part, size, nonempty, bounded, buffered, present⟩ :=
            filledTracks.portion zero (by simp [window])
          have cut := untilDelimiter_eq delimiter (rest.take taken)
          rw [← window, part]
          cases found : (rest.take taken).findIdx? (· == delimiter) with
          | some place =>
              obtain ⟨placed, _⟩ := List.findIdx?_eq_some_iff_getElem.mp found
              rw [size] at placed
              have inside : min (place + 1) taken = place + 1 := by omega
              simp only [found, List.take_take, inside] at cut
              have length : (rest.take (place + 1)).length = place + 1 := by
                rw [List.length_take]
                omega
              have skipped := filledTracks.skip (Nat.le_trans placed buffered)
              simpa only [cut, length, if_pos, Noted.value_pure,
                upTo_of_found bounded found, true_and] using skipped
          | none =>
              simp only [found] at cut
              obtain ⟨later, laterTracks⟩ :=
                ih (count - taken) (by omega) (filledTracks.skip buffered)
              simp only [cut, size, Bool.false_eq_true, if_false, Noted.value_bind,
                Noted.value_pure, upTo_of_absent bounded present found, later,
                List.take_add, true_and]
              rw [← List.drop_drop]
              exact laterTracks

-----------------------------------------------------------------------------------------
-- Runs of calls
-----------------------------------------------------------------------------------------

def Reader.perform (reader : Reader) : ReadCall → ReadReply × Reader
  | .read count =>
    let (bytes, after) := (reader.read count).value
    (⟨bytes, false⟩, after)
  | .readUntil delimiter count =>
    let ((bytes, found), after) := (reader.readUntil delimiter count).value
    (⟨bytes, found⟩, after)

/-- The replies to calls made one after another, and the reader after them. -/
def Reader.run (reader : Reader) : List ReadCall → List ReadReply × Reader
  | [] => ([], reader)
  | call :: rest =>
    let (reply, next) := reader.perform call
    let (replies, after) := run next rest
    (reply :: replies, after)

/-- The two ways in which a reader of a descriptor comes to be. -/
inductive Reader.Made (source : Source) (capacity : Nat) : Reader → Prop
  | lent : Made source capacity (.borrow source capacity)
  | opened {path : List UInt8} {reader : Reader}
    (primed : (openFile path capacity (.ok source)).value = .ok reader)
    : Made source capacity reader

/-- The window lies in the buffer, and the bytes returned so far followed by the window are
what the descriptor has delivered of `stream`.
-/
structure Reader.Accounts (reader : Reader) (stream returned : List UInt8) : Prop where
  ordered : reader.start ≤ reader.finish
  within : reader.finish ≤ reader.capacity
  delivered : returned ++ reader.window ++ reader.source.content = stream

theorem Reader.Tracks.made {source : Source} {capacity : Nat} {reader : Reader}
    (made : Made source capacity reader) (steady : source.Steady) (positive : 0 < capacity)
    : reader.Tracks capacity source.content := by
  have lent := Tracks.borrow steady capacity
  cases made with
  | lent => exact lent
  | opened primed =>
      obtain ⟨after, filled, afterTracks, _⟩ := lent.fill positive
      have zero : capacity ≠ 0 := by omega
      simp only [openFile, if_neg zero, Noted.value_bind, filled, Noted.value_pure,
        Except.map, Except.ok.injEq] at primed
      exact primed ▸ afterTracks

theorem Reader.Tracks.perform {reader : Reader} {capacity : Nat} {rest : List UInt8}
    (tracks : reader.Tracks capacity rest) (positive : 0 < capacity) (call : ReadCall)
    : (reader.perform call).1 = ⟨rest.take (call.extent rest).1, (call.extent rest).2⟩
      ∧ (reader.perform call).2.Tracks capacity (rest.drop (call.extent rest).1) := by
  cases call with
  | read count =>
      obtain ⟨bytes, afterTracks⟩ := tracks.read positive count
      rw [List.drop_eq_drop_min] at afterTracks
      refine ⟨?_, afterTracks⟩
      simp only [Reader.perform, ReadCall.extent, bytes, ← List.take_eq_take_min]
  | readUntil delimiter count =>
      obtain ⟨answered, afterTracks⟩ := tracks.readUntil positive delimiter count
      simp only [Reader.perform, ReadCall.extent, answered]
      exact ⟨trivial, afterTracks⟩

/-- A run replies from the stream, by induction on the calls. -/
theorem Reader.Tracks.run {reader : Reader} {capacity : Nat} {rest : List UInt8}
    (tracks : reader.Tracks capacity rest) (positive : 0 < capacity) (calls : List ReadCall)
    : (reader.run calls).1 = unbuffered rest calls
      ∧ ∃ left,
          (reader.run calls).2.Tracks capacity left
          ∧ (reader.run calls).1.flatMap ReadReply.bytes ++ left = rest := by
  induction calls generalizing reader rest with
  | nil => exact ⟨rfl, rest, tracks, rfl⟩
  | cons call calls ih =>
      obtain ⟨replied, nextTracks⟩ := tracks.perform positive call
      obtain ⟨answered, left, afterTracks, accounted⟩ := ih nextTracks
      refine ⟨?_, left, afterTracks, ?_⟩
      · simp only [Reader.run, unbuffered, replied, answered]
      · simp only [Reader.run, List.flatMap_cons, replied, List.append_assoc, accounted,
          List.take_append_drop]

theorem Reader.Tracks.accounts {reader : Reader} {capacity : Nat}
    {left returned stream : List UInt8} (tracks : reader.Tracks capacity left)
    (accounted : returned ++ left = stream)
    : reader.Accounts stream returned where
  ordered := Nat.le_add_right _ _
  within := tracks.capacity_eq ▸ tracks.within
  delivered := by rw [List.append_assoc, tracks.unread, accounted]

/-- Whatever the size of the buffer and the portions of the stream, any calls on a reader get
the replies of a reader without a buffer, so two readers of one stream cannot be told apart.
The window stays in the buffer, and what was returned followed by the window is what the
descriptor has delivered: after every call, as the calls are any, and also while a call
goes on, which is a shorter call or that followed by a refill.
-/
theorem Reader.run_eq_unbuffered {source : Source} (steady : source.Steady) {capacity : Nat}
    (positive : 0 < capacity) {reader : Reader} (made : Made source capacity reader)
    (calls : List ReadCall)
    : let replies := (reader.run calls).1
      let after := (reader.run calls).2
      let returned := replies.flatMap ReadReply.bytes
      replies = unbuffered source.content calls
      ∧ after.capacity = capacity
      ∧ after.Accounts source.content returned
      ∧ after.ready.value.Accounts source.content returned
      ∧ ∀ (other : Source) (size : Nat) (twin : Reader),
          other.Steady
          → 0 < size
          → Made other size twin
          → other.content = source.content
          → (twin.run calls).1 = replies := by
  have tracks := Tracks.made made steady positive
  obtain ⟨replied, left, afterTracks, accounted⟩ := tracks.run positive calls
  obtain ⟨readyTracks, _⟩ := afterTracks.ready positive
  refine ⟨replied, afterTracks.capacity_eq, afterTracks.accounts accounted,
    readyTracks.accounts accounted, ?_⟩
  intro other size twin otherSteady otherPositive otherMade same
  obtain ⟨otherReplied, _⟩ :=
    (Tracks.made otherMade otherSteady otherPositive).run otherPositive calls
  rw [otherReplied, same, replied]

/-- A stream of seven bytes through a buffer of three, delivered byte by byte with an
interruption: a delimiter behind a refill, a read over several windows, and the end.
-/
theorem Reader.run_eq_unbuffered_of_short_reads
    : let source : Source := {
        number := 5
        content := [1, 2, 3, 10, 4, 5, 6]
        schedule := [.gives 0, .refuses .interrupted, .gives 1]
      }
      let calls : List ReadCall := [.readUntil 10 6, .readUntil 10 2, .read 4, .read 1]
      source.Steady
      ∧ 0 < 3
      ∧ Made source 3 (.borrow source 3)
      ∧ ((borrow source 3).run calls).1
        = [⟨[1, 2, 3, 10], true⟩, ⟨[4, 5], false⟩, ⟨[6], false⟩, ⟨[], false⟩] := by
  intro source calls
  have steady : source.Steady := by
    refine ⟨?_, rfl, rfl⟩
    intro answer member
    simp only [source, List.mem_cons, List.not_mem_nil, or_false] at member
    rcases member with rfl | rfl | rfl
    · trivial
    · rfl
    · trivial
  have replied := (run_eq_unbuffered steady (by decide : 0 < 3) .lent calls).1
  exact ⟨steady, by decide, .lent, replied.trans (by decide)⟩

end CrashCapture.Descriptor
