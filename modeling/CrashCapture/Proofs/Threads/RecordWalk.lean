import Mathlib.Data.List.Induction
import Mathlib.Data.Nat.Digits.Defs
import CrashCapture.Proofs.Memory.Checked
import CrashCapture.Threads.Listing

/-! Walks over batches of directory records, whatever the batches hold. The length in a record
drives the walk and bounds the slice for the name. A length that ends behind the batch or is
zero ends the walk; one that ends before the name starts stops the program instead.
-/

namespace CrashCapture.Threads

-----------------------------------------------------------------------------------------
-- Records that are not malformed
-----------------------------------------------------------------------------------------

/-- The length that the first record in some bytes gives of itself. -/
def givenSize (bytes : List UInt8) : Nat := Memory.field bytes recordLengthOffset 2

/-- The first record is not malformed: it reaches up to its name at least and does not run past
the bytes.
-/
def StartsFormed (bytes : List UInt8) : Prop :=
  recordNameOffset ≤ givenSize bytes ∧ givenSize bytes ≤ bytes.length

instance (bytes : List UInt8) : Decidable (StartsFormed bytes) :=
  inferInstanceAs (Decidable (_ ∧ _))

/-- The records in front of the first malformed one, and what follows them. -/
def cut (bytes : List UInt8) : List (List UInt8) × List UInt8 :=
  if _formed : StartsFormed bytes then
    let rest := cut (bytes.drop (givenSize bytes))
    (bytes.take (givenSize bytes) :: rest.1, rest.2)
  else ([], bytes)
termination_by bytes.length
decreasing_by
  have some_bytes : 0 < recordNameOffset := by decide
  rw [List.length_drop]
  have positive := Nat.lt_of_lt_of_le some_bytes _formed.1
  exact Nat.sub_lt (Nat.lt_of_lt_of_le positive _formed.2) positive

/-- The bytes are these records, each as long as it says and with room for its fixed part, and a
rest that does not start with another such record.
-/
structure CutInto (bytes : List UInt8) (records : List (List UInt8)) (rest : List UInt8)
    : Prop where
  whole : records.flatten ++ rest = bytes
  formed
    : ∀ record ∈ records, recordNameOffset ≤ record.length ∧ givenSize record = record.length
  ends : ¬StartsFormed rest

/-- The size that a record gives is in its fixed part. -/
theorem givenSize_take {bytes : List UInt8} {count : Nat} (wide : recordNameOffset ≤ count)
    : givenSize (bytes.take count) = givenSize bytes := by
  have within : recordLengthOffset + 2 ≤ count := Nat.le_trans (by decide) wide
  rw [givenSize, Memory.field, List.drop_take, List.take_take, Nat.min_eq_left (by omega)]
  rfl

/-- A batch is cut into its records and what is left of it. -/
theorem cut_cutInto (bytes : List UInt8) : CutInto bytes (cut bytes).1 (cut bytes).2 := by
  fun_induction cut bytes with
  | case1 bytes formed rest ih =>
      have length : (bytes.take (givenSize bytes)).length = givenSize bytes :=
        List.length_take_of_le formed.2
      refine ⟨?_, List.forall_mem_cons.mpr ⟨⟨?_, ?_⟩, ih.formed⟩, ih.ends⟩
      · rw [List.flatten_cons, List.append_assoc, ih.whole, List.take_append_drop]
      · exact length.symm ▸ formed.1
      · rw [givenSize_take formed.1, length]
  | case2 bytes malformed => exact ⟨rfl, nofun, malformed⟩

-----------------------------------------------------------------------------------------
-- Names that are numbers
-----------------------------------------------------------------------------------------

/-- The name in a record ends at its first zero byte, or with the record. -/
def nameOf (record : List UInt8) : List UInt8 :=
  (record.drop recordNameOffset).takeWhile (· ≠ 0)

def AllDigits (name : List UInt8) : Prop := ∀ byte ∈ name, 0x30 ≤ byte ∧ byte ≤ 0x39

instance (name : List UInt8) : Decidable (AllDigits name) := List.decidableBAll _ name

def IsNumber (name : List UInt8) : Prop := name ≠ [] ∧ AllDigits name

instance (name : List UInt8) : Decidable (IsNumber name) :=
  inferInstanceAs (Decidable (_ ∧ _))

/-- The number that digits stand for, the last of them for ones. -/
def numberOf (name : List UInt8) : Nat :=
  Nat.ofDigits 10 (name.reverse.map fun byte => byte.toNat - 48)

/-- The thread that a record is about, when its name is a number. Handles have 64 bits. -/
def threadOf? (record : List UInt8) : Option ThreadId :=
  if IsNumber (nameOf record) then some (.ofNat (numberOf (nameOf record))) else none

/-- A last digit adds its value to ten times the number in front. -/
theorem numberOf_concat (name : List UInt8) (byte : UInt8)
    : numberOf (name ++ [byte]) = 10 * numberOf name + (byte.toNat - 48) := by
  rw [numberOf, List.reverse_append, List.reverse_singleton, List.singleton_append,
    List.map_cons, Nat.ofDigits_cons, numberOf]
  exact Nat.add_comm _ _

/-- One digit more, in numbers that wrap. -/
theorem ofNat_digit {byte : UInt8} (digit : 0x30 ≤ byte) (value : Nat)
    : UInt64.ofNat value * 10 + (byte - 0x30).toUInt64
      = UInt64.ofNat (10 * value + (byte.toNat - 48)) := by
  have distance : (byte - 0x30).toUInt64 = UInt64.ofNat (byte.toNat - 48) := by
    rw [← UInt64.toNat_inj, UInt8.toNat_toUInt64, UInt8.toNat_sub_of_le _ _ digit]
    have small := byte.toNat_lt
    exact (UInt64.toNat_ofNat_of_lt' (Nat.lt_of_le_of_lt (Nat.sub_le _ _)
      (Nat.lt_trans small (by decide)))).symm
  rw [distance, Nat.mul_comm, UInt64.ofNat_add, UInt64.ofNat_mul]
  rfl

/-- A name of digits stays one with a further digit. -/
theorem allDigits_concat (front : List UInt8) (byte : UInt8)
    : AllDigits (front ++ [byte]) ↔ AllDigits front ∧ 0x30 ≤ byte ∧ byte ≤ 0x39 := by
  simp only [AllDigits, List.forall_mem_append, List.forall_mem_singleton]

/-- Digits are read one after the other, by induction on the name from its end. -/
theorem foldlM_name (name : List UInt8)
    : name.foldlM
        (fun (value : UInt64) (byte : UInt8) =>
          if 0x30 ≤ byte ∧ byte ≤ 0x39 then some (value * 10 + (byte - 0x30).toUInt64)
          else none)
        0
      = if AllDigits name then some (UInt64.ofNat (numberOf name)) else none := by
  induction name using List.reverseRecOn with
  | nil => rfl
  | append_singleton front byte ih =>
      simp only [List.foldlM_append, List.foldlM_cons, List.foldlM_nil, bind_pure, ih,
        numberOf_concat, allDigits_concat]
      by_cases digits : AllDigits front
      · rw [if_pos digits, Option.bind_eq_bind, Option.bind_some]
        by_cases digit : 0x30 ≤ byte ∧ byte ≤ 0x39
        · rw [if_pos digit, if_pos ⟨digits, digit⟩, ofNat_digit digit.1]
        · rw [if_neg digit, if_neg fun both => digit both.2]
      · rw [if_neg digits, if_neg fun both => digits both.1]
        rfl

/-- The name in a record is read as the thread of the record. -/
theorem threadOfName?_nameOf (record : List UInt8)
    : threadOfName? (nameOf record) = threadOf? record := by
  rw [threadOfName?, foldlM_name, threadOf?]
  by_cases empty : nameOf record = []
  · rw [empty]
    rfl
  · simp only [IsNumber, List.isEmpty_iff, empty, if_false, ne_eq, not_false_eq_true, true_and]
    split <;> rfl

-----------------------------------------------------------------------------------------
-- What a batch is walked as
-----------------------------------------------------------------------------------------

/-- A record that gives a length, but one that ends before its name starts, with more bytes
behind it than the fixed part takes.
-/
def IsBrief (bytes : List UInt8) : Prop :=
  recordNameOffset < bytes.length ∧ givenSize bytes ≠ 0 ∧ givenSize bytes < recordNameOffset

instance (bytes : List UInt8) : Decidable (IsBrief bytes) :=
  inferInstanceAs (Decidable (_ ∧ _))

/-- One turn of the walk over a batch. -/
theorem walkBatch_unfold (bytes : List UInt8)
    : walkBatch bytes
      = if recordNameOffset < bytes.length then
          if givenSize bytes = 0 ∨ bytes.length < givenSize bytes then ([], true)
          else if givenSize bytes < recordNameOffset then ([], false)
          else
            let rest := walkBatch (bytes.drop (givenSize bytes))
            ((threadOfName? (nameOf (bytes.take (givenSize bytes)))).toList ++ rest.1, rest.2)
        else ([], true) := by
  rw [walkBatch]
  rfl

/-- A walk visits the threads of the records in front of the first malformed one, and breaks
when that one is brief.
-/
theorem walkBatch_eq (bytes : List UInt8)
    : walkBatch bytes = ((cut bytes).1.filterMap threadOf?, !decide (IsBrief (cut bytes).2)) := by
  fun_induction walkBatch bytes with
  | case1 bytes room size ends =>
      have given : givenSize bytes = size := rfl
      have malformed : ¬StartsFormed bytes := by
        rintro ⟨wide, inside⟩
        have some_bytes : recordNameOffset ≠ 0 := by decide
        omega
      have notBrief : ¬IsBrief bytes := by
        rintro ⟨_, given, short⟩
        omega
      rw [cut, dif_neg malformed, decide_eq_false notBrief]
      rfl
  | case2 bytes room size goes short =>
      have malformed : ¬StartsFormed bytes := fun formed => Nat.not_lt_of_le formed.1 short
      have brief : IsBrief bytes := ⟨room, fun zero => goes (.inl zero), short⟩
      rw [cut, dif_neg malformed, decide_eq_true brief]
      rfl
  | case3 bytes room size goes wide name rest ih =>
      have formed : StartsFormed bytes := by
        rw [not_or] at goes
        exact ⟨Nat.le_of_not_lt wide, Nat.le_of_not_lt goes.2⟩
      have named : name = nameOf (bytes.take (givenSize bytes)) := rfl
      have later : rest = _ := ih
      rw [cut, dif_pos formed, named, threadOfName?_nameOf, later]
      dsimp only
      rw [List.filterMap_cons]
      cases threadOf? (bytes.take (givenSize bytes)) <;> rfl
  | case4 bytes little =>
      -- There may be a record without a name, of nothing but the fixed part.
      have nothingBehind (rest : List UInt8) (few : rest.length ≤ recordNameOffset)
          : ¬IsBrief rest := fun brief => Nat.not_lt_of_le few brief.1
      have few := Nat.le_of_not_lt little
      by_cases formed : StartsFormed bytes
      · have whole : bytes.take (givenSize bytes) = bytes :=
          List.take_of_length_le (Nat.le_trans few formed.1)
        have unnamed : nameOf bytes = [] := by
          rw [nameOf, List.drop_eq_nil_of_le few]
          rfl
        have behind : bytes.drop (givenSize bytes) = [] :=
          List.drop_eq_nil_of_le (Nat.le_trans few formed.1)
        have nothing : cut [] = ([], []) := by
          rw [cut, dif_neg (by decide)]
        rw [cut, dif_pos formed, whole, behind, nothing,
          decide_eq_false (nothingBehind [] (Nat.zero_le _)), List.filterMap_cons, threadOf?,
          unnamed]
        rfl
      · rw [cut, dif_neg formed, decide_eq_false (nothingBehind bytes few)]
        rfl

-----------------------------------------------------------------------------------------
-- The walk with its accesses checked
-----------------------------------------------------------------------------------------

/-- Where a walk stands in a batch, and what it visited and counted, in earlier batches too. -/
structure Walk where
  offset : Nat := 0
  count : Nat := 0
  visited : List ThreadId := []
deriving DecidableEq, Repr

namespace Walk

/-- Goes on behind a record, which is visited and counted when it is about a thread. -/
def pass (walk : Walk) (size : Nat) : Option ThreadId → Walk
  | some thread => ⟨walk.offset + size, walk.count + 1, walk.visited ++ [thread]⟩
  | none => { walk with offset := walk.offset + size }

/-- One round: where the walk goes on, or nothing at its end. Both bytes of the length are
indexed, and the name is a slice whose start must not be behind its end.
-/
def next (walk : Walk) (bytes : List UInt8) : Checked (Option Walk) :=
  if walk.offset + recordNameOffset < bytes.length then do
    let size ← Checked.field bytes (walk.offset + recordLengthOffset) 2
    if size = 0 ∨ bytes.length < walk.offset + size then return none
    else
      let start := walk.offset + recordNameOffset
      let name ← Checked.slice bytes start (← Checked.sub (walk.offset + size) start)
      return some (walk.pass size (threadOfName? (name.takeWhile (· ≠ 0))))
  else return none

/-- Rounds up to the end of the walk, or up to what stops it. -/
def run (bytes : List UInt8) : (rounds : Nat) → Walk → Walk × Option Fault
  | 0, walk => (walk, some .endless)
  | rounds + 1, walk =>
    match walk.next bytes with
    | .error fault => (walk, some fault)
    | .ok (none, _) => (walk, none)
    | .ok (some next, _) => run bytes rounds next

/-- Walks over the batches that are returned, up to one without bytes, which is the end. Every
round takes one byte at least, so that the bytes of a batch are enough for its rounds.
-/
def overBatches : List (List UInt8) → Walk → Walk × Option Fault
  | [], walk => (walk, none)
  | batch :: rest, walk =>
    if batch = [] then (walk, none)
    else
      match run batch (batch.length + 1) { walk with offset := 0 } with
      | (after, none) => overBatches rest after
      | (after, some fault) => (after, some fault)

variable {walk : Walk} {bytes : List UInt8}

/-- Passing a record moves the offset behind it. -/
theorem offset_pass (walk : Walk) (size : Nat) (thread : Option ThreadId)
    : (walk.pass size thread).offset = walk.offset + size := by
  cases thread <;> rfl

/-- How a walk ends when it visits these threads on the way. -/
def EndsWith (walk : Walk) (result : Walk × Option Fault) (rest : List ThreadId × Bool)
    : Prop :=
  result.1.count = walk.count + rest.1.length
  ∧ result.1.visited = walk.visited ++ rest.1
  ∧ result.2 = if rest.2 then none else some .underflow

/-- A walk that ends here has nothing left to visit. -/
theorem EndsWith.here (walk : Walk) (whole : Bool)
    : walk.EndsWith (walk, if whole then none else some .underflow) ([], whole) :=
  ⟨rfl, (List.append_nil _).symm, rfl⟩

/-- What is visited after a record was passed comes behind its thread. -/
theorem EndsWith.pass {size : Nat} {thread : Option ThreadId} {result : Walk × Option Fault}
    {rest : List ThreadId × Bool} (ends : (walk.pass size thread).EndsWith result rest)
    : walk.EndsWith result (thread.toList ++ rest.1, rest.2) := by
  obtain ⟨count, visited, fault⟩ := ends
  cases thread with
  | none => exact ⟨count, visited, fault⟩
  | some thread =>
      refine ⟨?_, ?_, fault⟩
      · rw [count, List.length_append, ← Nat.add_assoc]
        rfl
      · rw [visited, ← List.append_assoc]
        rfl

/-- A round reads what stands at its offset in the batch as the first record there. -/
theorem next_eq {rest : List UInt8} (here : bytes.drop walk.offset = rest)
    : walk.next bytes
      = if recordNameOffset < rest.length then
          if givenSize rest = 0 ∨ rest.length < givenSize rest then pure none
          else if givenSize rest < recordNameOffset then Checked.stop .underflow
          else
            pure (some (walk.pass (givenSize rest)
              (threadOfName? (nameOf (rest.take (givenSize rest))))))
        else pure none := by
  have length : rest.length = bytes.length - walk.offset := here ▸ List.length_drop
  have size : Memory.field bytes (walk.offset + recordLengthOffset) 2 = givenSize rest := by
    rw [givenSize, ← here, Memory.field, Memory.field, List.drop_drop]
  have lengthField : recordLengthOffset + 2 ≤ recordNameOffset := by decide
  rw [next]
  by_cases room : walk.offset + recordNameOffset < bytes.length
  · rw [if_pos room, if_pos (by omega), Checked.field_eq (by omega), Checked.pure_bind, size]
    by_cases ends : givenSize rest = 0 ∨ rest.length < givenSize rest
    · rw [if_pos ends, if_pos (by omega)]
    · rw [if_neg ends, if_neg (by omega)]
      dsimp only
      by_cases short : givenSize rest < recordNameOffset
      · have stops
            : Checked.sub (walk.offset + givenSize rest) (walk.offset + recordNameOffset)
              = Checked.stop .underflow := if_neg (by omega)
        rw [if_pos short, stops]
        rfl
      · have name : (bytes.drop (walk.offset + recordNameOffset)).take
              (walk.offset + givenSize rest - (walk.offset + recordNameOffset))
            = (rest.take (givenSize rest)).drop recordNameOffset := by
          rw [← here, List.drop_take, List.drop_drop, Nat.add_sub_add_left]
        rw [if_neg short, Checked.sub_eq (by omega), Checked.pure_bind,
          Checked.slice_eq (by omega), Checked.pure_bind, name]
        rfl
  · rw [if_neg room, if_neg (by omega)]

/-- A walk from an offset on is the walk over the bytes from there, by induction on the rounds
that are left.
-/
theorem run_endsWith {rounds : Nat} (enough : bytes.length - walk.offset < rounds)
    : walk.EndsWith (walk.run bytes rounds) (walkBatch (bytes.drop walk.offset)) := by
  induction rounds generalizing walk with
  | zero => exact absurd enough (Nat.not_lt_zero _)
  | succ rounds ih =>
      generalize here : bytes.drop walk.offset = rest
      have length : rest.length = bytes.length - walk.offset := here ▸ List.length_drop
      have round := next_eq here
      rw [run, walkBatch_unfold]
      by_cases room : recordNameOffset < rest.length
      · rw [if_pos room] at round ⊢
        by_cases ends : givenSize rest = 0 ∨ rest.length < givenSize rest
        · rw [if_pos ends] at round ⊢
          rw [round]
          exact .here _ true
        · rw [if_neg ends] at round ⊢
          by_cases short : givenSize rest < recordNameOffset
          · rw [if_pos short] at round ⊢
            rw [round]
            exact .here _ false
          · rw [if_neg short] at round ⊢
            rw [round]
            let thread := threadOfName? (nameOf (rest.take (givenSize rest)))
            have behind : bytes.drop (walk.pass (givenSize rest) thread).offset
                = rest.drop (givenSize rest) := by
              rw [offset_pass, ← here, List.drop_drop]
            have later
                : (walk.pass (givenSize rest) thread).EndsWith
                  (run bytes rounds (walk.pass (givenSize rest) thread))
                  (walkBatch (rest.drop (givenSize rest))) := by
              rw [← behind]
              refine ih ?_
              rw [offset_pass]
              omega
            exact later.pass
      · rw [if_neg room] at round ⊢
        rw [round]
        exact .here _ true

/-- A walk over all batches goes on from the end of one to the next, by induction on them. -/
theorem overBatches_endsWith (batches : List (List UInt8)) (walk : Walk)
    : walk.EndsWith (overBatches batches walk) (walkBatches batches) := by
  induction batches generalizing walk with
  | nil => exact .here _ true
  | cons batch rest ih =>
      have first
          : ({ walk with offset := 0 } : Walk).EndsWith
            (run batch (batch.length + 1) { walk with offset := 0 }) (walkBatch batch) :=
        run_endsWith (Nat.lt_succ_self batch.length)
      rw [overBatches, walkBatches]
      by_cases atEnd : batch = []
      · rw [if_pos atEnd, if_pos atEnd]
        exact .here _ true
      rw [if_neg atEnd, if_neg atEnd]
      generalize run batch (batch.length + 1) { walk with offset := 0 } = result at first
      generalize walkBatch batch = walked at first
      obtain ⟨after, fault⟩ := result
      obtain ⟨threads, whole⟩ := walked
      obtain ⟨count, visited, ended⟩ := first
      cases whole with
      | false =>
          obtain rfl : fault = some .underflow := ended
          exact ⟨count, visited, rfl⟩
      | true =>
          obtain rfl : fault = none := ended
          obtain ⟨laterCount, laterVisited, laterEnded⟩ := ih after
          dsimp only at count visited
          refine ⟨?_, ?_, laterEnded⟩
          · dsimp only
            rw [laterCount, count, List.length_append, Nat.add_assoc]
          · dsimp only
            rw [laterVisited, visited, List.append_assoc]

end Walk

-----------------------------------------------------------------------------------------
-- Listings of several batches
-----------------------------------------------------------------------------------------

/-- The batches in front of one without bytes, which tells that the list has ended. -/
def returned (batches : List (List UInt8)) : List (List UInt8) := batches.takeWhile (· ≠ [])

/-- The batches up to the first one with a brief record in front of every other malformed one. -/
def reached : List (List UInt8) → List (List UInt8)
  | [] => []
  | batch :: rest => batch :: if IsBrief (cut batch).2 then [] else reached rest

/-- Some batch has a record that is too short when the first one has or a later one. -/
theorem exists_brief_cons (batch : List UInt8) (rest : List (List UInt8))
    : (∃ other ∈ batch :: rest, IsBrief (cut other).2)
      ↔ IsBrief (cut batch).2 ∨ ∃ other ∈ rest, IsBrief (cut other).2 := by
  simp only [List.mem_cons, or_and_right, exists_or, exists_eq_left]

/-- All batches are reached where no record is too short. -/
theorem reached_of_none_brief {batches : List (List UInt8)}
    (none_brief : ¬∃ batch ∈ batches, IsBrief (cut batch).2)
    : reached batches = batches := by
  induction batches with
  | nil => rfl
  | cons batch rest ih =>
      rw [exists_brief_cons, not_or] at none_brief
      rw [reached, if_neg none_brief.1, ih none_brief.2]

/-- A listing visits the threads of all batches that it reaches, by induction on the batches. -/
theorem walkBatches_eq (batches : List (List UInt8))
    : walkBatches batches
      = ((reached (returned batches)).flatMap fun batch => (cut batch).1.filterMap threadOf?,
        !decide (∃ batch ∈ returned batches, IsBrief (cut batch).2)) := by
  induction batches with
  | nil => rfl
  | cons batch rest ih =>
      rw [walkBatches]
      by_cases atEnd : batch = []
      · rw [if_pos atEnd, atEnd]
        rfl
      have goesOn : returned (batch :: rest) = batch :: returned rest :=
        List.takeWhile_cons_of_pos (decide_eq_true atEnd)
      rw [if_neg atEnd, walkBatch_eq, goesOn, reached]
      simp only [exists_brief_cons]
      by_cases brief : IsBrief (cut batch).2
      · rw [decide_eq_true brief, if_pos brief, decide_eq_true (.inl brief),
          List.flatMap_cons, List.flatMap_nil, List.append_nil]
        rfl
      · simp only [brief, decide_false, Bool.not_false, if_false, false_or, ih]
        rw [List.flatMap_cons]

/-- A listing gives what its batches are walked as. A refusal to read on is a failure only when
nothing was visited before.
-/
theorem list_of_walkBatches {batches : List (List UInt8)} {threads : List ThreadId}
    {whole : Bool} (walked : walkBatches batches = (threads, whole))
    (readRefused : Option Errno)
    : let listing := ({ batches, readRefused } : TaskDirectory).list.value
      listing.visited = threads
      ∧ listing.broken = !whole
      ∧ (whole = true
        → (listing.result = .ok () ↔ ([] ∈ batches ∨ readRefused = none) ∨ threads ≠ [])) := by
  have none_refused
      : ({ batches, readRefused } : TaskDirectory).refusal? = none
        ↔ [] ∈ batches ∨ readRefused = none := by
    rw [TaskDirectory.refusal?]
    by_cases ended : [] ∈ batches <;> simp [ended]
  rw [← none_refused]
  dsimp only
  rw [TaskDirectory.list]
  generalize ({ batches, readRefused } : TaskDirectory).refusal? = refused
  dsimp only
  rw [walked]
  cases whole with
  | false => exact ⟨rfl, rfl, nofun⟩
  | true =>
      cases refused with
      | none => exact ⟨rfl, rfl, fun _ => iff_of_true rfl (.inl rfl)⟩
      | some errno =>
          refine ⟨rfl, rfl, fun _ => ?_⟩
          show
            (if threads.isEmpty then Except.error (Failure.ofErrno errno) else .ok ()) = .ok ()
              ↔ _
          cases threads <;> simp

/-- Whatever batches are returned, the walk over them ends, with the first one without bytes if
there is one, and no index and no end of a slice is outside of a batch. It visits the numbers
that are names of the records in front of the first malformed one of each batch, and counts the
visits; but a record that ends before its name starts, where it is the first malformed one of a
batch with bytes behind its fixed part, makes a slice with its start behind its end. That stops
the program, so that no later batch is reached.
-/
theorem listing_visits_front_of_batches (batches : List (List UInt8))
    (readRefused : Option Errno)
    : let listing := ({ batches, readRefused } : TaskDirectory).list.value
      let (walk, fault) := Walk.overBatches batches {}
      let returned := returned batches
      (∀ batch ∈ batches, CutInto batch (cut batch).1 (cut batch).2)
      ∧ walk.visited
        = ((reached returned).flatMap fun batch => (cut batch).1.filterMap threadOf?)
      ∧ walk.count = walk.visited.length
      ∧ fault
        = (if ∃ batch ∈ returned, IsBrief (cut batch).2 then some .underflow else none)
      ∧ (fault = none → reached returned = returned)
      ∧ listing.visited = walk.visited
      ∧ listing.broken = fault.isSome
      ∧ (fault = none
        → (listing.result = .ok ()
          ↔ ([] ∈ batches ∨ readRefused = none) ∨ walk.visited ≠ [])) := by
  intro listing
  have ends := Walk.overBatches_endsWith batches {}
  have walked := walkBatches_eq batches
  obtain ⟨listed, broken, result⟩ := list_of_walkBatches walked readRefused
  rw [walked] at ends
  generalize Walk.overBatches batches {} = run at ends
  obtain ⟨walk, fault⟩ := run
  obtain ⟨count, visited, ended⟩ := ends
  dsimp only at count visited ended ⊢
  rw [List.nil_append] at visited
  rw [Nat.zero_add, ← visited] at count
  rw [← visited] at listed result
  have cuts (batch : List UInt8) (_ : batch ∈ batches) := cut_cutInto batch
  by_cases brief : ∃ batch ∈ returned batches, IsBrief (cut batch).2
  · rw [decide_eq_true brief] at ended broken
    obtain rfl : fault = some .underflow := ended
    exact ⟨cuts, visited, count, (if_pos brief).symm, nofun, listed, broken, nofun⟩
  · rw [decide_eq_false brief] at ended broken result
    obtain rfl : fault = none := ended
    exact ⟨cuts, visited, count, (if_neg brief).symm, fun _ => reached_of_none_brief brief,
      listed, broken, fun _ => result rfl⟩

/-- A record of a thread, and one that ends before its name starts with the name of one. -/
def named (size digit : UInt8) : List UInt8 :=
  List.replicate 16 0 ++ [size, 0, 4, digit, 0, 0, 0, 0]

/-- After the record of thread 7 a brief one follows. The record of thread 8, the first one of
the next batch, is not reached any more.
-/
theorem brief_record_stops_listing
    : let batches := [named 24 0x37 ++ named 5 0x39, named 24 0x38]
      Walk.overBatches batches {} = (⟨24, 1, [⟨7⟩]⟩, some .underflow)
      ∧ ({ batches } : TaskDirectory).list.value.broken = true
      ∧ batches.flatMap (fun batch => (cut batch).1.filterMap threadOf?) = [⟨7⟩, ⟨8⟩] := by
  intro batches
  refine ⟨by decide, ?_, ?_⟩
  · decide +kernel
  · decide +kernel

end CrashCapture.Threads
