import CrashCapture.Program.Command
import CrashCapture.Proofs.Text.Numerals

/-! How an address may be written on a command line. Reading accepts nothing else, and it gives
back every address that the program itself writes.
-/

namespace CrashCapture.Program

open Digits (Spells spells_numeral spells_padLeft)

/-- The text denotes the number: hexadecimal behind 0x or 0X, or decimal. -/
def Denotes (text : String) (n : Nat) : Prop :=
  (∃ x numeral, text.toList = '0' :: x :: numeral ∧ (x = 'x' ∨ x = 'X') ∧ Spells 16 numeral n)
  ∨ Spells 10 text.toList n

/-- No decimal numeral has a letter in its second place. -/
theorem not_spells_marker {x : Char} {numeral : List Char} {n : Nat} (letter : x = 'x' ∨ x = 'X')
    : ¬ Spells 10 ('0' :: x :: numeral) n := by
  have none : Digits.digitIn 10 x = Option.none := by
    rcases letter with rfl | rfl <;> decide
  rw [Digits.spells_of_unsigned (by simp)]
  rintro ⟨_, values, each, _⟩
  cases each with
  | cons _ others =>
      cases others with
      | cons second _ =>
          rw [← Digits.digitIn_eq_some_iff (by decide), none] at second
          cases second

/-- What stands for the number of an address in its text. -/
def addressNumber (text : List Char) : Except Digits.Fault Nat :=
  match text with
  | '0' :: 'x' :: digits => Digits.read 16 UInt64.size digits
  | '0' :: 'X' :: digits => Digits.read 16 UInt64.size digits
  | digits => Digits.read 10 UInt64.size digits

theorem parseAddress_eq_ok_iff_number {text : String} {address : Address}
    : parseAddress text = .ok address
      ↔ ∃ n, addressNumber text.toList = .ok n ∧ address = .ofNat n := by
  unfold parseAddress
  dsimp only
  split
  next n read =>
    change addressNumber text.toList = .ok n at read
    simp [read, eq_comm]
  next fault read =>
    change addressNumber text.toList = .error fault at read
    simp [read]

theorem addressNumber_eq_ok_iff {text : String} {n : Nat}
    : addressNumber text.toList = .ok n ↔ Denotes text n ∧ n < 2 ^ 64 := by
  unfold addressNumber Denotes
  split
  next digits marked =>
    rw [Digits.read_eq_ok_iff (by decide) (by decide) (by decide), marked]
    simp [not_spells_marker, UInt64.size]
  next digits marked =>
    rw [Digits.read_eq_ok_iff (by decide) (by decide) (by decide), marked]
    simp [not_spells_marker, UInt64.size]
  next lower upper =>
    rw [Digits.read_eq_ok_iff (by decide) (by decide) (by decide)]
    refine and_congr_left fun _ => (or_iff_right ?_).symm
    rintro ⟨x, numeral, marked, rfl | rfl, _⟩
    · exact lower numeral marked
    · exact upper numeral marked

/-- By its number, an address is read from each of the texts that denote it. -/
theorem parseAddress_of_denotes {text : String} {address : Address}
    (denotes : Denotes text address.toNat)
    : parseAddress text = .ok address := by
  rw [parseAddress_eq_ok_iff_number]
  refine ⟨address.toNat, addressNumber_eq_ok_iff.mpr ⟨denotes, address.value.toNat_lt⟩, ?_⟩
  simp [Address.ofNat, Address.toNat]

/-- A text is read as an address just if it is 0x or 0X with a hexadecimal numeral behind it, or
a decimal numeral, of a number that fits; the address is that number. So an address is read back
from the text that the program writes for it, from its digits behind 0x and from its number.
-/
theorem parseAddress_reads_denoted
    : (∀ text address,
        parseAddress text = .ok address
        ↔ ∃ n, Denotes text n ∧ n < 2 ^ 64 ∧ address = .ofNat n)
      ∧ ∀ address : Address,
          parseAddress address.text = .ok address
          ∧ parseAddress ("0x" ++ Digits.hex address.toNat) = .ok address
          ∧ parseAddress (Digits.decimal address.toNat) = .ok address := by
  refine ⟨fun text address => ?_, fun address => ?_⟩
  · simp only [parseAddress_eq_ok_iff_number, addressNumber_eq_ok_iff, and_assoc]
  · have padded : Denotes address.text address.toNat :=
      .inl ⟨'x', _, by simp [Address.text, Digits.hexPadded], .inl rfl,
        spells_padLeft (by decide) (by decide) 16 _⟩
    have marked : Denotes ("0x" ++ Digits.hex address.toNat) address.toNat :=
      .inl ⟨'x', _, by simp [Digits.hex], .inl rfl, spells_numeral (by decide) (by decide) _⟩
    have plain : Denotes (Digits.decimal address.toNat) address.toNat := by
      refine .inr ?_
      rw [Digits.decimal, String.toList_ofList]
      exact spells_numeral (by decide) (by decide) _
    exact ⟨parseAddress_of_denotes padded, parseAddress_of_denotes marked,
      parseAddress_of_denotes plain⟩

end CrashCapture.Program
