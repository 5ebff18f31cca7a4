import CrashCapture.EventId
import Mathlib.Algebra.Order.Ring.Nat
import Mathlib.Tactic.SplitIfs

/-! Numerals read back. Reading what a number was written as gives the number, with zeros in
front or without them, so that different numbers are never written alike.
-/

namespace CrashCapture

namespace Digits

variable {base limit width n m : Nat}

-----------------------------------------------------------------------------------------
-- Digits of a number
-----------------------------------------------------------------------------------------

/-- The digits of a number have its value, by induction on them. -/
theorem ofLittleEndian_littleEndian (two : 2 ≤ base) (n : Nat)
    : ofLittleEndian base (littleEndian base n) = n := by
  induction n using littleEndian.induct base with
  | case1 n more ih =>
      rw [littleEndian, dif_pos more, ofLittleEndian, ih]
      exact Nat.mod_add_div n base
  | case2 n none =>
      rw [littleEndian, dif_neg none, ofLittleEndian]
      exact (Decidable.byContradiction fun some => none ⟨two, Ne.symm some⟩)

theorem lt_of_mem_littleEndian (n : Nat) {digit : Nat} (among : digit ∈ littleEndian base n)
    : digit < base := by
  induction n using littleEndian.induct base with
  | case1 n more ih =>
      rw [littleEndian, dif_pos more] at among
      rcases List.mem_cons.mp among with rfl | later
      · exact Nat.mod_lt _ (by omega)
      · exact ih later
  | case2 n none =>
      rw [littleEndian, dif_neg none] at among
      exact nomatch among

/-- A number below a power of the base has no more digits than the power says. -/
theorem length_littleEndian_le (small : n < base ^ width)
    : (littleEndian base n).length ≤ width := by
  induction n using littleEndian.induct base generalizing width with
  | case1 n more ih =>
      rw [littleEndian, dif_pos more, List.length_cons]
      cases width with
      | zero =>
          rw [Nat.pow_zero] at small
          exact absurd small (by omega)
      | succ width =>
          rw [Nat.pow_succ] at small
          exact Nat.succ_le_succ (ih (Nat.div_lt_of_lt_mul (by rwa [Nat.mul_comm])))
  | case2 n none =>
      rw [littleEndian, dif_neg none]
      exact Nat.zero_le _

theorem numeral_ne_nil (base n : Nat) : numeral base n ≠ [] := by
  unfold numeral
  split
  next => exact List.cons_ne_nil _ _
  next some => simpa using some

theorem length_numeral_le (positive : 0 < width) (small : n < base ^ width)
    : (numeral base n).length ≤ width := by
  have fits := length_littleEndian_le small
  unfold numeral
  split
  · exact positive
  · simpa using fits

-----------------------------------------------------------------------------------------
-- Reading
-----------------------------------------------------------------------------------------

theorem digitIn_digitChar {digit : Nat} (below : digit < base) (known : base ≤ 16)
    : digitIn base (Nat.digitChar digit) = some digit := by
  have value : ∀ digit : Fin 16, digitValue (Nat.digitChar digit) = some digit.val := by decide
  rw [digitIn, value ⟨digit, by omega⟩]
  simpa [Option.filter] using below

/-- Reading goes on from what the digits in front come to, by induction on them. -/
theorem readDigits_append (value : Nat) (front rest : List Char)
    : readDigits base limit value (front ++ rest)
      = (readDigits base limit value front).bind (readDigits base limit · rest) := by
  induction front generalizing value with
  | nil => rfl
  | cons c front ih =>
      rw [List.cons_append, readDigits, readDigits]
      cases digitIn base c with
      | none => rfl
      | some digit =>
          dsimp only
          split
          · exact ih _
          · rfl

/-- Digits are read as their value, by induction from the last one. -/
theorem readDigits_reverse (known : base ≤ 16) {digits : List Nat}
    (proper : ∀ digit ∈ digits, digit < base) (small : ofLittleEndian base digits < limit)
    : readDigits base limit 0 (digits.reverse.map Nat.digitChar)
      = .ok (ofLittleEndian base digits) := by
  induction digits with
  | nil => rfl
  | cons digit rest ih =>
      have below : digit < base := proper digit List.mem_cons_self
      rw [ofLittleEndian] at small ⊢
      have whole : ofLittleEndian base rest < limit := by
        have := Nat.le_mul_of_pos_left (ofLittleEndian base rest) (Nat.zero_lt_of_lt below)
        omega
      rw [List.reverse_cons, List.map_append, readDigits_append,
        ih (fun later among => proper later (List.mem_cons_of_mem _ among)) whole]
      rw [Nat.add_comm] at small ⊢
      simp [Except.bind, readDigits, digitIn_digitChar below known, small]

/-- Zeros in front count for nothing, by induction on them. -/
theorem readDigits_padLeft (positive : 0 < base) (possible : 0 < limit) (text : List Char)
    : readDigits base limit 0 (padLeft '0' width text) = readDigits base limit 0 text := by
  unfold padLeft
  generalize width - text.length = count
  have zero : digitIn base '0' = some 0 := by
    simp [digitIn, digitValue, Option.filter, positive]
  induction count with
  | zero => rfl
  | succ count ih =>
      rw [List.replicate_succ, List.cons_append, readDigits, zero]
      simpa [possible] using ih

theorem readDigits_numeral (two : 2 ≤ base) (known : base ≤ 16) (small : n < limit)
    : readDigits base limit 0 (numeral base n) = .ok n := by
  have value := ofLittleEndian_littleEndian two n
  have read := readDigits_reverse known (fun digit => lt_of_mem_littleEndian n)
    (value.symm ▸ small)
  rw [value] at read
  unfold numeral
  split
  next none =>
    rw [none] at read
    rw [← read]
    show readDigits base limit 0 (padLeft '0' 1 []) = _
    exact readDigits_padLeft (by omega) (by omega) []
  next digits _ => exact read

/-- A decimal digit is the distance of its character from the one of zero. -/
theorem toNat_of_digitIn {c : Char} {digit : Nat} (known : digitIn 10 c = some digit)
    : c.toNat = 48 + digit ∧ digit < 10 := by
  obtain ⟨valued, below⟩ := Option.filter_eq_some_iff.mp known
  have small : digit < 10 := of_decide_eq_true below
  refine ⟨?_, small⟩
  unfold digitValue at valued
  split_ifs at valued with numeric lower upper
  · have least : 48 ≤ c.toNat := numeric.1
    have itself : c.toNat - 48 = digit := Option.some.inj valued
    omega
  all_goals
    have itself := Option.some.inj valued
    omega

/-- Only digits are read as a number, by induction along the text. -/
theorem digits_of_readDigits {value : Nat} {text : List Char}
    (read : readDigits base limit value text = .ok n)
    : ∀ c ∈ text, ∃ digit, digitIn base c = some digit := by
  induction text generalizing value with
  | nil => nofun
  | cons c rest ih =>
      rw [readDigits] at read
      cases known : digitIn base c with
      | none => simp [known] at read
      | some digit =>
          simp only [known] at read
          split at read
          · exact List.forall_mem_cons.mpr ⟨⟨digit, known⟩, ih read⟩
          · cases read

-----------------------------------------------------------------------------------------
-- Padded numerals
-----------------------------------------------------------------------------------------

/-- Numbers that are written alike are read alike. -/
theorem hexPadded_inj (same : hexPadded width n = hexPadded width m) : n = m := by
  have alike : padLeft '0' width (numeral 16 n) = padLeft '0' width (numeral 16 m) :=
    String.ofList_injective same
  have reads {number : Nat} (small : number ≤ n + m)
      : readDigits 16 (n + m + 1) 0 (padLeft '0' width (numeral 16 number)) = .ok number := by
    rw [readDigits_padLeft (by decide) (Nat.succ_pos _)]
    exact readDigits_numeral (by decide) (by decide) (Nat.lt_succ_of_le small)
  have value := reads (Nat.le_add_right n m)
  rw [alike, reads (Nat.le_add_left m n)] at value
  exact (Except.ok.inj value).symm

theorem length_hexPadded (positive : 0 < width) (small : n < 16 ^ width)
    : (hexPadded width n).toList.length = width := by
  have short := length_numeral_le positive small
  rw [hexPadded, String.toList_ofList, padLeft, List.length_append, List.length_replicate]
  omega

/-- Where a numeral of a fixed width ends, the rest of a text begins. -/
theorem hexPadded_append_inj {rest other : List Char} (positive : 0 < width)
    (small : n < 16 ^ width) (slight : m < 16 ^ width)
    (same : (hexPadded width n).toList ++ rest = (hexPadded width m).toList ++ other)
    : n = m ∧ rest = other := by
  obtain ⟨alike, onward⟩ := List.append_inj same
    ((length_hexPadded positive small).trans (length_hexPadded positive slight).symm)
  exact ⟨hexPadded_inj (String.toList_inj.mp alike), onward⟩

end Digits

-----------------------------------------------------------------------------------------
-- Identifiers
-----------------------------------------------------------------------------------------

/-- An identifier is written as five groups of digits with hyphens between them. -/
theorem EventId.toList_text (id : EventId)
    : id.text.toList
      = (Digits.hexPadded 8 (id.high.toNat / 0x100000000)).toList
        ++ '-' :: ((Digits.hexPadded 4 (id.high.toNat / 0x10000 % 0x10000)).toList
        ++ '-' :: ((Digits.hexPadded 4 (id.high.toNat % 0x10000)).toList
        ++ '-' :: ((Digits.hexPadded 4 (id.low.toNat / 0x1000000000000)).toList
        ++ '-' :: ((Digits.hexPadded 12 (id.low.toNat % 0x1000000000000)).toList
        ++ [])))) := by
  simp [text, String.intercalate_cons_cons, String.intercalate_singleton]

/-- Different identifiers have different texts: the groups of digits have their fixed widths,
and together they are all of the identifier.
-/
theorem EventId.text_injective : Function.Injective EventId.text := by
  rintro ⟨high, low⟩ ⟨otherHigh, otherLow⟩ same
  have alike := congrArg String.toList same
  rw [toList_text, toList_text] at alike
  dsimp only at alike
  have bounds := And.intro high.toNat_lt otherHigh.toNat_lt
  have limits := And.intro low.toNat_lt otherLow.toNat_lt
  obtain ⟨first, alike⟩ := Digits.hexPadded_append_inj (by decide) (by omega) (by omega) alike
  obtain ⟨second, alike⟩ := Digits.hexPadded_append_inj (by decide) (by omega) (by omega)
    (List.cons.inj alike).2
  obtain ⟨third, alike⟩ := Digits.hexPadded_append_inj (by decide) (by omega) (by omega)
    (List.cons.inj alike).2
  obtain ⟨fourth, alike⟩ := Digits.hexPadded_append_inj (by decide) (by omega) (by omega)
    (List.cons.inj alike).2
  obtain ⟨fifth, -⟩ := Digits.hexPadded_append_inj (by decide) (by omega) (by omega)
    (List.cons.inj alike).2
  have highs : high = otherHigh := UInt64.toNat_inj.mp (by omega)
  have lows : low = otherLow := UInt64.toNat_inj.mp (by omega)
  rw [highs, lows]

end CrashCapture
