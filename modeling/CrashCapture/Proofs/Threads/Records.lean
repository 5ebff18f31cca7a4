import CrashCapture.Proofs.Text.Bytes
import CrashCapture.Proofs.Text.Digits
import CrashCapture.Threads.Listing

/-! What the kernel writes for threads is what is read back. Every record gives its own length
and a name of digits, so that a walk over the records meets the threads one by one and ends
with the last of them.
-/

namespace CrashCapture

namespace Threads

open Digits

-----------------------------------------------------------------------------------------
-- Names of threads
-----------------------------------------------------------------------------------------

/-- Bytes of digits are read as the number that the digits are read as, modulo 2^64, by
induction along them.
-/
theorem foldlM_of_readDigits {limit value n : Nat} {text : List Char}
    (read : readDigits 10 limit value text = .ok n)
    : (text.map fun c => UInt8.ofNat c.toNat).foldlM
        (fun (value : UInt64) (byte : UInt8) =>
          if 0x30 ≤ byte ∧ byte ≤ 0x39 then some (value * 10 + (byte - 0x30).toUInt64)
          else none)
        (UInt64.ofNat value)
      = some (UInt64.ofNat n) := by
  induction text generalizing value with
  | nil =>
      obtain rfl : value = n := Except.ok.inj read
      rfl
  | cons c rest ih =>
      rw [readDigits] at read
      cases known : digitIn 10 c with
      | none => simp [known] at read
      | some digit =>
          simp only [known] at read
          split at read
          next =>
            obtain ⟨place, below⟩ := toNat_of_digitIn known
            have each : ∀ digit : Fin 10,
                0x30 ≤ UInt8.ofNat (48 + digit)
                ∧ UInt8.ofNat (48 + digit) ≤ 0x39
                ∧ (UInt8.ofNat (48 + digit) - 0x30).toUInt64 = UInt64.ofNat digit := by
              decide
            obtain ⟨least, most, distance⟩ := each ⟨digit, below⟩
            have onward
                : UInt64.ofNat value * 10 + UInt64.ofNat digit
                  = UInt64.ofNat (10 * value + digit) := by
              rw [UInt64.ofNat_add, Nat.mul_comm, UInt64.ofNat_mul]
              rfl
            rw [List.map_cons, List.foldlM_cons, place, if_pos ⟨least, most⟩, distance, onward]
            exact ih read
          next => cases read

/-- The numeral of a thread is read back as its number, which fits. -/
theorem readDigits_thread (thread : ThreadId)
    : readDigits 10 UInt64.size 0 (numeral 10 thread.value.toNat) = .ok thread.value.toNat :=
  readDigits_numeral (by decide) (by decide) thread.value.toNat_lt

/-- The bytes of a handle's text are its digits. -/
theorem bytes_text (thread : ThreadId)
    : Text.bytes thread.text
      = (numeral 10 thread.value.toNat).map fun c => UInt8.ofNat c.toNat := by
  refine Text.bytes_ofList fun c among => ?_
  obtain ⟨digit, known⟩ := digits_of_readDigits (readDigits_thread thread) c among
  have place := toNat_of_digitIn known
  omega

/-- The text of a handle is the name of its thread. -/
theorem threadOfName?_text (thread : ThreadId)
    : threadOfName? (Text.bytes thread.text) = some thread := by
  have some : (Text.bytes thread.text).isEmpty = false := by
    rw [bytes_text, List.isEmpty_map, List.isEmpty_eq_false_iff]
    exact numeral_ne_nil _ _
  have read := foldlM_of_readDigits (readDigits_thread thread)
  rw [UInt64.ofNat_toNat] at read
  rw [threadOfName?, some, if_neg Bool.false_ne_true, bytes_text]
  exact congrArg (Option.map ThreadId.mk) read

-----------------------------------------------------------------------------------------
-- Records of a directory
-----------------------------------------------------------------------------------------

/-- Texts that fit a record: their bytes are no terminators, and the record that is made for
them has a length that fits its field.
-/
structure Recordable (name : String) : Prop where
  unterminated : ∀ byte ∈ Text.bytes name, byte ≠ 0
  short : (Text.bytes name).length < 65500

/-- The name of a thread can stand in a record: it is short and has no zero byte. -/
theorem recordable_text (thread : ThreadId) : Recordable thread.text where
  unterminated := by
    rw [bytes_text]
    refine List.forall_mem_map.mpr fun c among => ?_
    obtain ⟨digit, known⟩ := digits_of_readDigits (readDigits_thread thread) c among
    obtain ⟨place, below⟩ := toNat_of_digitIn known
    have each : ∀ digit : Fin 10, UInt8.ofNat (48 + digit) ≠ 0 := by decide
    rw [place]
    exact each ⟨digit, below⟩
  short := by
    have few : (numeral 10 thread.value.toNat).length ≤ 20 :=
      length_numeral_le (by decide) (Nat.lt_trans thread.value.toNat_lt (by decide))
    rw [bytes_text, List.length_map]
    omega

/-- The length of the record of a name. -/
def recordSize (name : String) : Nat :=
  (recordNameOffset + (Text.bytes name).length + 1 + 7) / 8 * 8

/-- A record is its fixed part, its size and kind, its name, and zeros up to its size. -/
theorem record_eq (name : String)
    : record name
      = List.replicate 16 0
        ++ ([UInt8.ofNat (recordSize name), UInt8.ofNat (recordSize name / 256), 4]
        ++ (Text.bytes name
        ++ List.replicate (recordSize name - 19 - (Text.bytes name).length) 0)) := by
  simp only [record, recordSize, recordNameOffset, recordLengthOffset, List.append_assoc]

/-- A record is as long as it says. -/
theorem length_record (name : String) : (record name).length = recordSize name := by
  rw [record_eq]
  simp only [List.length_append, List.length_replicate, List.length_cons, List.length_nil]
  rw [recordSize, recordNameOffset]
  omega

/-- A walk reads a record as the name that it was written for, and goes on behind it. -/
theorem walkBatch_record {name : String} (fits : Recordable name) (rest : List UInt8)
    : walkBatch (record name ++ rest)
      = ((threadOfName? (Text.bytes name)).toList ++ (walkBatch rest).1, (walkBatch rest).2) := by
  have size := length_record name
  have least : recordNameOffset + (Text.bytes name).length < recordSize name := by
    rw [recordSize]
    omega
  have small : recordSize name < 65536 := by
    have short := fits.short
    rw [recordSize, recordNameOffset]
    omega
  have length : (record name ++ rest).length = recordSize name + rest.length := by
    rw [List.length_append, size]
  have told : Memory.field (record name ++ rest) recordLengthOffset 2 = recordSize name := by
    rw [record_eq, Memory.field, recordLengthOffset, List.append_assoc,
      List.drop_left' List.length_replicate]
    simp [Memory.littleEndian]
    omega
  have read
      : (((record name ++ rest).take (recordSize name)).drop recordNameOffset).takeWhile (· ≠ 0)
        = Text.bytes name := by
    rw [List.take_left' size, record_eq, ← List.append_assoc, List.drop_left' (by simp; rfl),
      List.takeWhile_append_of_pos (by simpa using fits.unterminated)]
    simp
  rw [walkBatch, dif_pos (by omega)]
  dsimp only
  rw [told, dif_neg (by omega), if_neg (by omega), read, List.drop_left' size]

/-- The two names that every directory lists. -/
theorem bytes_dots : Text.bytes "." = [46] ∧ Text.bytes ".." = [46, 46] := by
  simp only [Text.bytes_eq]
  decide

/-- Neither of the two names that every directory lists is one of a thread. -/
theorem threadOfName?_dots
    : threadOfName? (Text.bytes ".") = none ∧ threadOfName? (Text.bytes "..") = none := by
  rw [bytes_dots.1, bytes_dots.2]
  decide

/-- Both names that every directory lists can stand in a record. -/
theorem recordable_dots : Recordable "." ∧ Recordable ".." := by
  obtain ⟨one, two⟩ := bytes_dots
  constructor
  · exact ⟨by simp [one], by simp [one]⟩
  · exact ⟨by simp [two], by simp [two]⟩

/-- No record is empty, so that none ends a listing. -/
theorem record_ne_nil (name : String) : record name ≠ [] := by
  rw [record_eq]
  exact List.append_ne_nil_of_left_ne_nil (by decide) _

/-- In a batch without bytes there is nothing to walk over. -/
theorem walkBatch_nil : walkBatch [] = ([], true) := by
  rw [walkBatch, dif_neg (by decide)]

/-- Records of threads are read as the threads, by induction on them. -/
theorem walkBatches_records (threads : List ThreadId)
    : walkBatches (threads.map fun thread => record thread.text) = (threads, true) := by
  induction threads with
  | nil => rfl
  | cons thread rest ih =>
      have one := walkBatch_record (recordable_text thread) []
      rw [List.append_nil, walkBatch_nil, threadOfName?_text] at one
      rw [List.map_cons, walkBatches, if_neg (record_ne_nil _), one, ih]
      rfl

/-- The directory of some threads is listed as these threads, in their order and without a
word.
-/
theorem list_ofThreads (threads : List ThreadId)
    : (TaskDirectory.ofThreads threads).list
      = { value := { visited := threads, result := .ok () } } := by
  have dots : walkBatch (record "." ++ record "..") = ([], true) := by
    have second := walkBatch_record recordable_dots.2 []
    rw [List.append_nil, walkBatch_nil, threadOfName?_dots.2] at second
    rw [walkBatch_record recordable_dots.1, threadOfName?_dots.1, second]
    rfl
  have some_dots : record "." ++ record ".." ≠ [] :=
    List.append_ne_nil_of_left_ne_nil (record_ne_nil _) _
  have walked : walkBatches (TaskDirectory.ofThreads threads).batches = (threads, true) := by
    rw [TaskDirectory.ofThreads, walkBatches, if_neg some_dots, dots, walkBatches_records]
    rfl
  have granted : (TaskDirectory.ofThreads threads).refusal? = none := ite_self _
  rw [TaskDirectory.list, walked, granted]
  rfl

end Threads

end CrashCapture
