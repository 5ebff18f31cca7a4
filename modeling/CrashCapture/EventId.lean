import CrashCapture.Text.Digits

/-! Identifiers of events: 128 bits, written as five groups of hexadecimal digits with
hyphens between them.
-/

namespace CrashCapture

structure EventId where
  high : UInt64
  low : UInt64
deriving DecidableEq, Repr, Inhabited

namespace EventId

def nil : EventId := ⟨0, 0⟩

/-- How many characters the text of an identifier has. -/
def textLength : Nat := 36

def text (id : EventId) : String :=
  let high := id.high.toNat
  let low := id.low.toNat
  String.intercalate "-"
    [Digits.hexPadded 8 (high / 0x100000000), Digits.hexPadded 4 (high / 0x10000 % 0x10000),
      Digits.hexPadded 4 (high % 0x10000), Digits.hexPadded 4 (low / 0x1000000000000),
      Digits.hexPadded 12 (low % 0x1000000000000)]

end EventId

end CrashCapture
