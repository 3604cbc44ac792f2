import RecordFilter.Text.Digit

/-!
Dates of the Gregorian calendar, extended to all years from 1 to 9999.

A date has a day number, counted from the first day of year 1, and is found from it again. Years
have four-digit names, so the calendar ends with year 9999.
-/

namespace RecordFilter

namespace Calendar

/-- Whether a year has a leap day. -/
def isLeap (year : Nat) : Bool :=
  year % 4 = 0 && (year % 100 ≠ 0 || year % 400 = 0)

/-- The days of a month. -/
def daysInMonth (year month : Nat) : Nat :=
  if month = 2 then if isLeap year then 29 else 28
  else if month = 4 ∨ month = 6 ∨ month = 9 ∨ month = 11 then 30
  else 31

/-- The days before the first day of a year. -/
def daysBeforeYear (year : Nat) : Nat :=
  let past := year - 1
  365 * past + past / 4 - past / 100 + past / 400

/-- The days of a year before the first day of a month. -/
def daysBeforeMonth (year month : Nat) : Nat :=
  (List.range (month - 1)).foldl (fun days m => days + daysInMonth year (m + 1)) 0

/-- The number of days in the calendar. -/
def dayCount : Nat := 3652059

/-- The year of a day number: the estimate by the mean length of a year is at most one off. -/
def yearOf (day : Nat) : Nat :=
  let estimate := day * 400 / 146097 + 1
  if day < daysBeforeYear estimate then estimate - 1
  else if daysBeforeYear (estimate + 1) ≤ day then estimate + 1
  else estimate

/-- The month and the day of the month of a day of a year, with both days counted from zero. The
    search begins at `month` and has `fuel` months to go. -/
def monthOf (year month rest : Nat) : Nat → Nat × Nat
  | 0 => (month, rest)
  | fuel + 1 =>
    if rest < daysInMonth year month then (month, rest)
    else monthOf year (month + 1) (rest - daysInMonth year month) fuel

end Calendar

/-- A date. -/
structure Date where
  year : Nat
  month : Nat
  day : Nat
  deriving DecidableEq

namespace Date

open Calendar

/-- Whether the calendar has the date. -/
def IsValid (date : Date) : Prop :=
  (1 ≤ date.year ∧ date.year ≤ 9999) ∧ (1 ≤ date.month ∧ date.month ≤ 12) ∧
    1 ≤ date.day ∧ date.day ≤ daysInMonth date.year date.month

instance (date : Date) : Decidable date.IsValid :=
  inferInstanceAs (Decidable (_ ∧ _))

/-- The number of days from the first day of the calendar to the date. -/
def dayNumber (date : Date) : Nat :=
  daysBeforeYear date.year + daysBeforeMonth date.year date.month + (date.day - 1)

/-- The date of a day number. -/
def ofDayNumber (day : Nat) : Date :=
  let year := yearOf day
  let (month, rest) := monthOf year 1 (day - daysBeforeYear year) 11
  ⟨year, month, rest + 1⟩

/-- The date with four digits for the year and two for month and day. -/
def text (date : Date) : Text :=
  Text.padStart 4 '0' (Text.ofNat date.year) ++ '-' ::
    (Text.padStart 2 '0' (Text.ofNat date.month) ++ '-' ::
      Text.padStart 2 '0' (Text.ofNat date.day))

end Date

end RecordFilter
