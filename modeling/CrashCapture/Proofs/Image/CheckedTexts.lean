import CrashCapture.Image.CrashInfo
import CrashCapture.Proofs.Memory.Checked

/-! Texts in the memory of an image looked for and copied out with all checks made. No text is
looked for beyond its limit, and a copy never writes outside of its buffer.
-/

namespace CrashCapture.Image

open Checked (Safe)

namespace StoredText

-----------------------------------------------------------------------------------------
-- Looking for the end of a text
-----------------------------------------------------------------------------------------

def findFromChecked (memory : Memory) (address : Address) (limit : Nat)
    : (rounds offset : Nat) → Checked (Option StoredText)
  | 0, _ => Checked.stop .endless
  | rounds + 1, offset =>
    if offset < limit then do
      let at_ := address.advance offset
      let inPage ← Checked.remainder at_.toNat Memory.pageSize
      let toPageEnd ← Checked.sub Memory.pageSize inPage
      let left ← Checked.sub limit offset
      let size := min (min chunkSize left) toPageEnd
      match ← Checked.read memory at_ size chunkSize with
      | none => return none
      | some chunk =>
        match chunk.findIdx? (· = 0) with
        | some index =>
          return some { address := address, length := ← Checked.add offset index }
        | none => findFromChecked memory address limit rounds (← Checked.add offset size)
    else return none

/-- Every round looks at one byte at least, so the limit is enough for the rounds. -/
def findChecked (memory : Memory) (address : Address) (limit : Nat)
    : Checked (Option StoredText) :=
  if address.isNull then return none else findFromChecked memory address limit (limit + 1) 0

/-- A search from an offset reads no more bytes than are left of its limit, by induction on
the rounds left.
-/
theorem findFromChecked_gives {memory : Memory} {address : Address}
    {limit rounds offset : Nat} (fits : limit < UInt64.size)
    (enough : limit - offset < rounds)
    : (findFromChecked memory address limit rounds offset).Gives
        (findFrom? memory address limit offset) (Access.total · ≤ limit - offset) := by
  induction rounds generalizing offset with
  | zero => omega
  | succ rounds ih =>
      rw [findFromChecked, findFrom?]
      split
      case isTrue more =>
        have page : Memory.pageSize ≠ 0 := by decide
        have inPage : (address.advance offset).toNat % Memory.pageSize ≤ Memory.pageSize :=
          Nat.le_of_lt (Nat.mod_lt _ (by decide))
        simp only [Checked.remainder_eq page, Checked.sub_eq inPage,
          Checked.sub_eq (Nat.le_of_lt more), Checked.pure_bind]
        rw [← chunkAt]
        generalize sized : chunkAt (address.advance offset) (limit - offset) = size
        have positive := chunkAt_pos (address.advance offset) (limit - offset) (by omega)
        have capacity : size ≤ chunkSize := by rw [← sized, chunkAt]; omega
        have within : size ≤ limit - offset := by rw [← sized, chunkAt]; omega
        refine .read_bind capacity ?_
          fun rest (later : Access.total rest ≤ limit - (offset + size)) => ?_
        · cases read : memory.read? (address.advance offset) size with
          | none => exact .pure (Nat.zero_le _)
          | some chunk =>
              have full := memory.length_read _ _ _ read
              cases found : chunk.findIdx? (· = 0) with
              | none =>
                  simp only [found, Checked.add_eq (by omega : offset + size < UInt64.size),
                    Checked.pure_bind]
                  exact ih (by omega)
              | some index =>
                  have inside : index < chunk.length :=
                    (List.findIdx?_eq_some_iff_findIdx_eq.mp found).1
                  simp only [found, Checked.add_eq (by omega : offset + index < UInt64.size),
                    Checked.pure_bind]
                  exact .pure (Nat.zero_le _)
        · -- This read and the later ones share what is left of the limit.
          rw [Access.total_cons]
          omega
      case isFalse => exact .pure (Nat.zero_le _)

/-- The search for a text reads no more bytes than its limit. -/
theorem findChecked_gives (memory : Memory) (address : Address) {limit : Nat}
    (fits : limit < UInt64.size)
    : (findChecked memory address limit).Gives (find? memory address limit)
        (Access.total · ≤ limit) := by
  unfold findChecked find?
  split
  · exact .pure (Nat.zero_le limit)
  · exact findFromChecked_gives fits (by omega)

-----------------------------------------------------------------------------------------
-- Parts and copies of a text
-----------------------------------------------------------------------------------------

def skipChecked (text : StoredText) (count : Nat) : Checked StoredText := do
  let count := min count text.length
  return { address := text.address.advance count, length := ← Checked.sub text.length count }

/-- The front of a text is skipped by a difference that cannot fall below zero. -/
theorem skipChecked_eq (text : StoredText) (count : Nat)
    : text.skipChecked count = pure (text.skip count) := by
  have shorter : text.length - min count text.length = text.length - count := by omega
  rw [skipChecked, Checked.sub_eq (Nat.min_le_right _ _), Checked.pure_bind, skip, shorter]

def withoutUnderscoreChecked (memory : Memory) (text : StoredText) : Checked StoredText :=
  if text.length = 0 then return text
  else do
    match ← Checked.read memory text.address 1 1 with
    | none => return text
    | some first =>
      if (← Checked.slice first 0 1) = [0x5F] then text.skipChecked 1 else return text

/-- The underscore in front of a symbol is looked at safely. -/
theorem withoutUnderscoreChecked_safe (memory : Memory) (text : StoredText)
    : (text.withoutUnderscoreChecked memory).Safe (text.withoutUnderscore memory) := by
  unfold withoutUnderscoreChecked withoutUnderscore
  by_cases empty : text.length = 0
  · simp only [empty, ne_eq, not_true_eq_false, decide_false, Bool.false_and,
      Bool.false_eq_true, if_true, if_false]
    exact .pure
  · simp only [empty, ne_eq, not_false_eq_true, decide_true, Bool.true_and, if_false,
      decide_eq_true_eq]
    refine .read_bind (Nat.le_refl 1) ?_
    cases read : memory.read? text.address 1 with
    | none => exact .pure
    | some first =>
        have full := memory.length_read _ _ _ read
        have inside : 0 + 1 ≤ first.length := Nat.le_of_eq full.symm
        simp only [Checked.slice_eq inside, Checked.pure_bind, List.drop_zero,
          List.take_of_length_le (Nat.le_of_eq full), Option.some.injEq]
        split
        · rw [skipChecked_eq]
          exact .pure
        · exact .pure

/-- What a buffer holds in front of its first zero, when it has one. -/
def upToZero? (buffer : List UInt8) : Option (List UInt8) :=
  if buffer.contains 0 then some (buffer.takeWhile (· ≠ 0)) else none

/-- Copies the text into a buffer, ends it with a zero and gives what is in front of the first
zero.
-/
def readChecked (memory : Memory) (text : StoredText) (buffer : List UInt8)
    : Checked (Option (List UInt8)) :=
  if buffer.length = 0 then return none
  else do
    let length := min text.length (buffer.length - 1)
    if length = 0 then terminated buffer length
    else
      match ← Checked.read memory text.address length buffer.length with
      | none => return none
      | some bytes => terminated (bytes ++ buffer.drop length) length
where
  terminated (buffer : List UInt8) (length : Nat) : Checked (Option (List UInt8)) := do
    let buffer ← Checked.store buffer length 0
    return upToZero? (← Checked.slice buffer 0 (length + 1))

/-- With a zero byte put behind it a buffer always has an end to stop at. -/
theorem upToZero?_append_zero (bytes : List UInt8)
    : upToZero? (bytes ++ [0]) = some (bytes.takeWhile (· ≠ 0)) := by
  have ended : (bytes ++ [0]).contains 0 = true := by
    simp only [List.contains_eq_mem, List.mem_append, List.mem_singleton, or_true,
      decide_true]
  have zero : List.takeWhile (fun byte : UInt8 => decide (byte ≠ 0)) [0] = [] := rfl
  rw [upToZero?, if_pos ended, List.takeWhile_append, zero, List.append_nil]
  split
  case isTrue all => rw [(List.takeWhile_prefix _).eq_of_length all]
  case isFalse => rfl

/-- The zero overwrites what stood in the buffer behind the copy. -/
theorem terminated_eq {bytes rest : List UInt8} (room : rest ≠ [])
    : readChecked.terminated (bytes ++ rest) bytes.length
      = pure (some (bytes.takeWhile (· ≠ 0))) := by
  obtain ⟨next, others, rfl⟩ := List.exists_cons_of_ne_nil room
  have inside : bytes.length < (bytes ++ next :: others).length := by
    rw [List.length_append, List.length_cons]
    omega
  have stored : (bytes ++ next :: others).set bytes.length 0 = bytes ++ [0] ++ others := by
    rw [List.set_append_right _ _ (Nat.le_refl _), Nat.sub_self, List.append_assoc]
    rfl
  have length : (bytes ++ [0]).length = bytes.length + 1 := by
    rw [List.length_append, List.length_singleton]
  have front : 0 + (bytes.length + 1) ≤ (bytes ++ [0] ++ others).length := by
    rw [List.length_append, length]
    omega
  rw [readChecked.terminated, Checked.store_eq inside, Checked.pure_bind, stored,
    Checked.slice_eq front, Checked.pure_bind, List.drop_zero, List.take_left' length,
    upToZero?_append_zero]

/-- A text is copied into any buffer without leaving it. -/
theorem readChecked_safe (memory : Memory) (text : StoredText) (buffer : List UInt8)
    : (text.readChecked memory buffer).Safe (text.read? memory buffer.length) := by
  unfold readChecked read?
  split
  case isTrue => exact .pure
  case isFalse some_room =>
    dsimp only
    generalize fitting : min text.length (buffer.length - 1) = length
    have inside : length < buffer.length := by omega
    split
    case isTrue empty =>
      have room : buffer ≠ [] := by
        rw [ne_eq, ← List.length_eq_zero_iff]
        exact some_room
      rw [empty]
      show (readChecked.terminated ([] ++ buffer) ([] : List UInt8).length).Safe (some [])
      rw [terminated_eq room]
      exact .pure
    case isFalse =>
      refine .read_bind (Nat.le_of_lt inside) ?_
      cases read : memory.read? text.address length with
      | none => exact .pure
      | some bytes =>
          have full : bytes.length = length := memory.length_read _ _ _ read
          have room : buffer.drop length ≠ [] := by
            rw [ne_eq, List.drop_eq_nil_iff]
            omega
          simp only [← full, terminated_eq (full ▸ room)]
          exact .pure

end StoredText

-----------------------------------------------------------------------------------------
-- Crash information
-----------------------------------------------------------------------------------------

namespace CrashInfo

variable {memory : Memory}

def textAtChecked (memory : Memory) (record : List UInt8) (offset : Nat)
    : Checked (Option StoredText) := do
  StoredText.findChecked memory (.ofNat (← Checked.field record offset 8)) (longestText + 1)

def ofRecordChecked (memory : Memory) (record : List UInt8) : Checked CrashInfo := do
  let version ← Checked.field record 0 4
  let message ← Checked.field record 8 8
  let message2 ← Checked.field record 32 8
  if version ≠ 4 ∧ version ≠ 5 then return {}
  else if message = 0 ∧ message2 = 0 then return {}
  else
    return {
      message := ← textAtChecked memory record 8
      message2 := ← textAtChecked memory record 32
      signature := ← textAtChecked memory record 16
      backtrace := ← textAtChecked memory record 24 }

def readChecked (memory : Memory) (start : Address) (size : Nat) : Checked CrashInfo :=
  if size < recordSize then return {}
  else do
    if ← memory.isReadableChecked start recordSize then
      match ← Checked.read memory start recordSize recordSize with
      | none => return {}
      | some record => ofRecordChecked memory record
    else return {}

/-- A text of a crash record is found safely from a pointer inside of the record. -/
theorem textAtChecked_safe {record : List UInt8} {offset : Nat}
    (inside : offset + 8 ≤ record.length)
    : (textAtChecked memory record offset).Safe (textAt? memory record offset) := by
  rw [textAtChecked, Checked.field_eq inside, Checked.pure_bind]
  exact (StoredText.findChecked_gives memory _ (by decide)).safe

/-- A full record is decoded safely, both of its texts included. -/
theorem ofRecordChecked_safe {record : List UInt8} (full : record.length = recordSize)
    : (ofRecordChecked memory record).Safe (ofRecord memory record).value := by
  have size : record.length = 40 := full
  have text {offset : Nat} (inside : offset + 8 ≤ 40)
      : (textAtChecked memory record offset).Safe (textAt? memory record offset) :=
    textAtChecked_safe (Nat.le_trans inside (Nat.le_of_eq full.symm))
  rw [ofRecordChecked, ofRecord]
  simp (disch := omega) only [Checked.field_eq, Checked.pure_bind]
  split
  · exact .pure
  · split
    · exact .pure
    · exact (text (by decide)).bind ((text (by decide)).bind
        ((text (by decide)).bind ((text (by decide)).bind .pure)))

/-- A crash section is read safely, from its size check on. -/
theorem readChecked_safe (memory : Memory) (start : Address) (size : Nat)
    : (readChecked memory start size).Safe (read memory start size).value := by
  unfold readChecked read
  split
  · exact .pure
  · refine (memory.isReadableChecked_safe start (by decide)).bind ?_
    cases memory.isReadable start recordSize with
    | false => exact .pure
    | true =>
        simp only [if_true]
        refine .read_bind (Nat.le_refl recordSize) ?_
        cases read : memory.read? start recordSize with
        | none => exact .pure
        | some record => exact ofRecordChecked_safe (memory.length_read _ _ _ read)

end CrashInfo

end CrashCapture.Image
