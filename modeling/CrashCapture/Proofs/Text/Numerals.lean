import CrashCapture.Proofs.Text.Digits
import Mathlib.Data.List.Forall2
import Mathlib.Data.Nat.Digits.Defs

/-! Which texts are numerals. Reading accepts a text just if it is digits, perhaps behind one
plus sign, whose number is below the limit; zeros in front are digits like others.
-/

namespace CrashCapture.Digits

variable {base limit value n : Nat} {c : Char} {text : List Char}

-----------------------------------------------------------------------------------------
-- One digit
-----------------------------------------------------------------------------------------

/-- The character is the digit of this value, in either letter case. -/
def IsDigit (base : Nat) (c : Char) (value : Nat) : Prop :=
  value < base ∧ (c = Nat.digitChar value ∨ c = (Nat.digitChar value).toUpper)

/-- Digits up to nine are in a row, and so are the letters of either case that go on. -/
theorem toNat_digitChar_cases (small : value < 16)
    : value < 10 ∧ (Nat.digitChar value).toNat = 48 + value
      ∨ 10 ≤ value
        ∧ (Nat.digitChar value).toNat = 87 + value
        ∧ (Nat.digitChar value).toUpper.toNat = 55 + value := by
  have all : ∀ digit : Fin 16,
      digit.val < 10 ∧ (Nat.digitChar digit).toNat = 48 + digit.val
      ∨ 10 ≤ digit.val
        ∧ (Nat.digitChar digit).toNat = 87 + digit.val
        ∧ (Nat.digitChar digit).toUpper.toNat = 55 + digit.val := by decide
  exact all ⟨value, small⟩

theorem isDigit_of_digitIn (known : base ≤ 16) (found : digitIn base c = some value)
    : IsDigit base c value := by
  rw [digitIn, Option.filter_eq_some_iff, decide_eq_true_iff] at found
  obtain ⟨valued, below⟩ := found
  refine ⟨below, ?_⟩
  rw [← Char.toNat_inj, ← Char.toNat_inj]
  have digits := toNat_digitChar_cases (Nat.lt_of_lt_of_le below known)
  unfold digitValue at valued
  split_ifs at valued with numeric lower upper
  · have bounds : 48 ≤ c.toNat ∧ c.toNat ≤ 57 := numeric
    have itself : c.toNat - 48 = value := Option.some.inj valued
    omega
  · have bounds : 97 ≤ c.toNat ∧ c.toNat ≤ 122 := lower
    have itself : c.toNat - 97 + 10 = value := Option.some.inj valued
    omega
  · have bounds : 65 ≤ c.toNat ∧ c.toNat ≤ 90 := upper
    have itself : c.toNat - 65 + 10 = value := Option.some.inj valued
    omega

theorem digitIn_eq_some_iff (known : base ≤ 16)
    : digitIn base c = some value ↔ IsDigit base c value := by
  refine ⟨isDigit_of_digitIn known, ?_⟩
  rintro ⟨below, same⟩
  have both : ∀ digit : Fin 16,
      digitValue (Nat.digitChar digit) = some digit.val
      ∧ digitValue (Nat.digitChar digit).toUpper = some digit.val := by decide
  obtain ⟨lower, upper⟩ := both ⟨value, Nat.lt_of_lt_of_le below known⟩
  rw [digitIn, Option.filter_eq_some_iff, decide_eq_true_iff]
  rcases same with rfl | rfl
  · exact ⟨lower, below⟩
  · exact ⟨upper, below⟩

-----------------------------------------------------------------------------------------
-- Digits in a row
-----------------------------------------------------------------------------------------

/-- A number only grows as digits are added to it, by induction on them. -/
theorem le_foldl (positive : 0 < base) (value : Nat) (values : List Nat)
    : value ≤ values.foldl (fun value digit => digit + base * value) value := by
  induction values generalizing value with
  | nil => exact Nat.le_refl value
  | cons digit rest ih =>
      have grown : value ≤ digit + base * value :=
        (Nat.le_mul_of_pos_left value positive).trans (Nat.le_add_left _ _)
      exact grown.trans (ih _)

/-- By induction along the text: once the limit is reached no further digit leads back. -/
theorem readDigits_eq_ok_iff (positive : 0 < base) (known : base ≤ 16) (small : value < limit)
    : readDigits base limit value text = .ok n
      ↔ n < limit ∧ ∃ values,
          List.Forall₂ (IsDigit base) text values
          ∧ values.foldl (fun value digit => digit + base * value) value = n := by
  induction text generalizing value with
  | nil =>
      simp only [readDigits, Except.ok.injEq, List.forall₂_nil_left_iff, exists_eq_left,
        List.foldl_nil]
      exact ⟨fun same => ⟨same ▸ small, same⟩, And.right⟩
  | cons c rest ih =>
      rw [readDigits]
      simp only [List.forall₂_cons_left_iff, ← digitIn_eq_some_iff known]
      cases digitIn base c with
      | none => simp
      | some digit =>
          simp only [Option.some.injEq, exists_eq_left', exists_and_left, ↓existsAndEq, and_true,
            and_assoc, List.foldl_cons, Nat.add_comm digit]
          split
          next fits => exact ih fits
          next above =>
            refine iff_of_false (by simp) ?_
            rintro ⟨below, others, _, rfl⟩
            exact above ((le_foldl positive _ others).trans_lt below)

/-- The text is a numeral of the number: digits, perhaps behind a plus sign. -/
def Spells (base : Nat) (text : List Char) (n : Nat) : Prop :=
  ∃ sign digits values,
    text = sign ++ digits
    ∧ (sign = [] ∨ sign = ['+'])
    ∧ digits ≠ []
    ∧ List.Forall₂ (IsDigit base) digits values
    ∧ Nat.ofDigits base values.reverse = n

theorem not_isDigit_plus (known : base ≤ 16) : ¬ IsDigit base '+' value := by
  rw [← digitIn_eq_some_iff known, digitIn, Option.filter_eq_some_iff]
  have none : digitValue '+' = Option.none := by decide
  rintro ⟨found, _⟩
  rw [none] at found
  cases found

/-- Behind a plus sign there has to be a digit. -/
theorem spells_plus (known : base ≤ 16)
    : Spells base ('+' :: text) n
      ↔ text ≠ [] ∧ ∃ values,
          List.Forall₂ (IsDigit base) text values ∧ Nat.ofDigits base values.reverse = n := by
  constructor
  · rintro ⟨sign, digits, values, split, rfl | rfl, some, each, same⟩
    · rw [← (show '+' :: text = digits from split)] at each
      cases each with
      | cons first _ => exact absurd first (not_isDigit_plus known)
    · obtain rfl : text = digits := (List.cons.inj split).2
      exact ⟨some, values, each, same⟩
  · rintro ⟨some, values, each, same⟩
    exact ⟨['+'], text, values, rfl, .inr rfl, some, each, same⟩

theorem spells_of_unsigned (unsigned : ∀ rest, text ≠ '+' :: rest)
    : Spells base text n
      ↔ text ≠ [] ∧ ∃ values,
          List.Forall₂ (IsDigit base) text values ∧ Nat.ofDigits base values.reverse = n := by
  constructor
  · rintro ⟨sign, digits, values, split, rfl | rfl, some, each, same⟩
    · obtain rfl : text = digits := split
      exact ⟨some, values, each, same⟩
    · exact absurd split (unsigned digits)
  · rintro ⟨some, values, each, same⟩
    exact ⟨[], text, values, rfl, .inl rfl, some, each, same⟩

/-- What is read as digits is read as a numeral, for there is no sign in it. -/
theorem read_of_readDigits (known : base ≤ 16) (some : text ≠ [])
    (digits : readDigits base limit 0 text = .ok n)
    : read base limit text = .ok n := by
  have unsigned : '+' ∉ text := fun among => by
    obtain ⟨value, sign⟩ := digits_of_readDigits digits '+' among
    exact not_isDigit_plus known ((digitIn_eq_some_iff known).mp sign)
  unfold read
  split
  next => exact absurd rfl some
  next => exact absurd List.mem_cons_self unsigned
  next => exact absurd List.mem_cons_self unsigned
  next => exact digits

/-- A text that is read as a number is a numeral of it, which is below the limit. -/
theorem read_eq_ok_iff (positive : 0 < base) (known : base ≤ 16) (possible : 0 < limit)
    : read base limit text = .ok n ↔ Spells base text n ∧ n < limit := by
  have digits (text : List Char)
      : readDigits base limit 0 text = .ok n
        ↔ n < limit ∧ ∃ values,
            List.Forall₂ (IsDigit base) text values ∧ Nat.ofDigits base values.reverse = n := by
    simp only [readDigits_eq_ok_iff positive known possible, Nat.ofDigits_eq_foldr,
      List.foldr_reverse, Nat.cast_id]
  unfold read
  split
  next =>
    refine iff_of_false (by simp) ?_
    rintro ⟨⟨_, _, _, split, _, some, _⟩, _⟩
    exact some (List.append_eq_nil_iff.mp split.symm).2
  next => exact iff_of_false (by simp) fun both => ((spells_plus known).mp both.1).1 rfl
  next text alone =>
    have some : text ≠ [] := by simpa using alone
    rw [digits, spells_plus known, and_iff_right some, and_comm]
  next empty _ signed =>
    rw [digits, spells_of_unsigned signed, and_iff_right empty, and_comm]

/-- Zeros in front of a number's digits change nothing. -/
theorem spells_padLeft (two : 2 ≤ base) (known : base ≤ 16) (width n : Nat)
    : Spells base (padLeft '0' width (numeral base n)) n := by
  have positive : 0 < base := Nat.lt_of_lt_of_le Nat.zero_lt_two two
  have some : padLeft '0' width (numeral base n) ≠ [] :=
    List.append_ne_nil_of_right_ne_nil _ (numeral_ne_nil base n)
  have digits := readDigits_numeral two known (Nat.lt_succ_self n)
  rw [← readDigits_padLeft positive n.succ_pos] at digits
  exact ((read_eq_ok_iff positive known n.succ_pos).mp (read_of_readDigits known some digits)).1

theorem spells_numeral (two : 2 ≤ base) (known : base ≤ 16) (n : Nat)
    : Spells base (numeral base n) n := by
  have bare : padLeft '0' 0 (numeral base n) = numeral base n := by simp [padLeft]
  exact bare ▸ spells_padLeft two known 0 n

end CrashCapture.Digits
