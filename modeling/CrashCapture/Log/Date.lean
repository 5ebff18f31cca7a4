import CrashCapture.Text.Digits

/-! Dates, counted in days since the start of 1970. Years are counted from March, so that the
day that a leap year adds comes last and the months before it have fixed lengths.
-/

namespace CrashCapture.Log

structure Date where
  year : Nat
  month : Nat
  day : Nat
deriving DecidableEq, Repr

namespace Date

/-- How many days lie between the first of March of the year 0 and the start of 1970. -/
def daysBefore1970 : Nat := 719468

/-- The days of four hundred years, after which the calendar repeats. -/
def cycle : Nat := 146097

/-- The date of a day. -/
def ofDays (days : Nat) : Date :=
  let total := days + daysBefore1970
  let inCycle := total % cycle
  let years := (inCycle - inCycle / 1460 + inCycle / 36524 - inCycle / 146096) / 365
  let inYear := inCycle - (365 * years + years / 4 - years / 100)
  let fromMarch := (5 * inYear + 2) / 153
  let month := if fromMarch < 10 then fromMarch + 3 else fromMarch - 9
  { year := total / cycle * 400 + years + (if month ≤ 2 then 1 else 0)
    month := month
    day := inYear - (153 * fromMarch + 2) / 5 + 1 }

/-- A date is written year first. -/
def text (date : Date) : String :=
  String.ofList (Digits.padLeft '0' 4 (Digits.numeral 10 date.year)
    ++ '-' :: Digits.padLeft '0' 2 (Digits.numeral 10 date.month)
    ++ '-' :: Digits.padLeft '0' 2 (Digits.numeral 10 date.day))

end Date

end CrashCapture.Log
