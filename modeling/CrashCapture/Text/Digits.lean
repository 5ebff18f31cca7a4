/-! Numbers as text: positional digits in a base, padded hexadecimal, and the bounded
numerals that command lines and settings are written with.
-/

namespace CrashCapture.Digits

/-- The digits of `n` in `base`, least significant first; zero has no digits. -/
def littleEndian (base n : Nat) : List Nat :=
  if _h : 2 ≤ base ∧ n ≠ 0 then (n % base) :: littleEndian base (n / base) else []
termination_by n
decreasing_by exact Nat.div_lt_self (Nat.pos_of_ne_zero _h.2) _h.1

/-- The value of digits given least significant first. -/
def ofLittleEndian (base : Nat) : List Nat → Nat
  | [] => 0
  | digit :: rest => digit + base * ofLittleEndian base rest

/-- The numeral of `n`: most significant digit first, and a single zero for zero. -/
def numeral (base n : Nat) : List Char :=
  match littleEndian base n with
  | [] => ['0']
  | digits => digits.reverse.map Nat.digitChar

def padLeft (fill : Char) (width : Nat) (text : List Char) : List Char :=
  List.replicate (width - text.length) fill ++ text

def decimal (n : Nat) : String := String.ofList (numeral 10 n)

def hex (n : Nat) : String := String.ofList (numeral 16 n)

/-- Hexadecimal padded with zeros to at least `width` digits. -/
def hexPadded (width n : Nat) : String := String.ofList (padLeft '0' width (numeral 16 n))

def signedDecimal (n : Int) : String :=
  if n < 0 then "-" ++ decimal n.natAbs else decimal n.natAbs

/-- Decimal padded with blanks on the left. -/
def decimalAligned (width n : Nat) : String :=
  String.ofList (padLeft ' ' width (numeral 10 n))

def digitValue (c : Char) : Option Nat :=
  if '0' ≤ c ∧ c ≤ '9' then some (c.toNat - '0'.toNat)
  else if 'a' ≤ c ∧ c ≤ 'z' then some (c.toNat - 'a'.toNat + 10)
  else if 'A' ≤ c ∧ c ≤ 'Z' then some (c.toNat - 'A'.toNat + 10)
  else none

/-- Why a text is not a numeral. -/
inductive Fault where
  | empty
  | invalidDigit
  | tooLarge
deriving DecidableEq, Repr

def Fault.message : Fault → String
  | .empty => "cannot parse integer from empty string"
  | .invalidDigit => "invalid digit found in string"
  | .tooLarge => "number too large to fit in target type"

def digitIn (base : Nat) (c : Char) : Option Nat :=
  (digitValue c).filter (· < base)

/-- Reads digits from the left. The first character that is no digit, or the first prefix
that reaches `limit`, decides the fault. -/
def readDigits (base limit : Nat) : Nat → List Char → Except Fault Nat
  | value, [] => .ok value
  | value, c :: rest =>
    match digitIn base c with
    | none => .error .invalidDigit
    | some digit =>
      if base * value + digit < limit then readDigits base limit (base * value + digit) rest
      else .error .tooLarge

/-- Reads a numeral below `limit`: one plus sign may precede the digits, and leading zeros
are free. -/
def read (base limit : Nat) (text : List Char) : Except Fault Nat :=
  match text with
  | [] => .error .empty
  | ['+'] => .error .invalidDigit
  | '+' :: digits => readDigits base limit 0 digits
  | digits => readDigits base limit 0 digits

end CrashCapture.Digits
