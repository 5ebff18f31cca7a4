import CrashCapture.Text.Blank

/-! The bytes of texts that are put together. A text that is written piece by piece has the
bytes of the pieces, one after the other.
-/

namespace CrashCapture.Text

theorem toList_loop (bytes : ByteArray) (index : Nat) (front : List UInt8)
    : ByteArray.toList.loop bytes index front
      = front.reverse ++ bytes.data.toList.drop index := by
  fun_induction ByteArray.toList.loop bytes index front with
  | case1 index front inside ih =>
      have here : index < bytes.data.toList.length := by simpa using inside
      rw [ih, List.drop_eq_getElem_cons here]
      simp [ByteArray.get!, inside]
  | case2 index front outside =>
      have past : bytes.data.toList.length ≤ index := by simpa using outside
      rw [List.drop_eq_nil_of_le past, List.append_nil]

theorem bytes_eq (text : String) : bytes text = text.toByteArray.data.toList := by
  rw [bytes, ByteArray.toList, toList_loop]
  rfl

theorem bytes_inj {first second : String} (same : bytes first = bytes second) : first = second := by
  rw [bytes_eq, bytes_eq, Array.toList_inj] at same
  exact String.toByteArray_inj.mp (ByteArray.ext same)

theorem bytes_append (front rest : String) : bytes (front ++ rest) = bytes front ++ bytes rest := by
  simp only [bytes_eq, String.toByteArray_append, ByteArray.data_append, Array.toList_append]

/-- A text of small characters has one byte for each of them. -/
theorem bytes_ofList {text : List Char} (small : ∀ c ∈ text, c.toNat < 128)
    : bytes (String.ofList text) = text.map fun c => UInt8.ofNat c.toNat := by
  have single (c : Char) (among : c ∈ text)
      : String.utf8EncodeChar c = [UInt8.ofNat c.toNat] := by
    rw [String.utf8EncodeChar]
    exact if_pos (Nat.le_of_lt_succ (small c among))
  rw [bytes_eq, String.toByteArray_ofList, List.utf8Encode, List.data_toByteArray,
    List.flatMap_def, List.map_congr_left single, ← List.flatMap_def, ← List.map_eq_flatMap]

/-- Pieces have the bytes of their joint text, by induction on them. -/
theorem bytes_join (pieces : List String)
    : bytes (String.join pieces) = (pieces.map bytes).flatten := by
  induction pieces with
  | nil => exact bytes_eq ""
  | cons piece rest ih =>
      rw [String.join_cons, bytes_append, ih, List.map_cons, List.flatten_cons]

end CrashCapture.Text
