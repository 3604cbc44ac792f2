import RecordFilter.Calendar.Date
import RecordFilter.Quantity.Duration

/-!
Moments: points in time of the calendar, to the microsecond and without a time zone.

A moment is the number of microseconds since the calendar began, so moments are ordered and moved
as integers are, within the years 1 to 9999.
-/

namespace RecordFilter

/-- The microseconds of a day, as a natural number. -/
def dayMicros : Nat := 86400000000

/-- A point in time. -/
structure Moment where
  instant : Nat
  inRange : instant < Calendar.dayCount * dayMicros
  deriving DecidableEq

/-- A time of day. -/
structure Clock where
  hour : Nat
  minute : Nat
  second : Nat
  micro : Nat := 0
  deriving DecidableEq

/-- Whether the time occurs in a day. Minutes and days have no leap seconds. -/
def Clock.IsValid (clock : Clock) : Prop :=
  clock.hour < 24 ∧ clock.minute < 60 ∧ clock.second < 60 ∧ clock.micro < 1000000

instance (clock : Clock) : Decidable clock.IsValid :=
  inferInstanceAs (Decidable (_ ∧ _))

/-- The microseconds since midnight. -/
def Clock.micros (clock : Clock) : Nat :=
  (clock.hour * 3600 + clock.minute * 60 + clock.second) * 1000000 + clock.micro

namespace Moment

instance : Inhabited Moment := ⟨⟨0, by decide⟩⟩

/-- The moment a number of microseconds after the beginning of the calendar, if it is in range. -/
def ofInstant? (instant : Int) : Option Moment :=
  if h : instant.toNat < Calendar.dayCount * dayMicros ∧ 0 ≤ instant then
    some ⟨instant.toNat, h.1⟩
  else none

/-- The moment of a date and a time of day, if both exist. -/
def of? (date : Date) (clock : Clock) : Option Moment :=
  if date.IsValid ∧ clock.IsValid then
    ofInstant? (date.dayNumber * dayMicros + clock.micros)
  else none

/-- The day number of the moment's date. -/
def dayNumber (m : Moment) : Nat := m.instant / dayMicros

/-- The microseconds since midnight. -/
def timeOfDay (m : Moment) : Nat := m.instant % dayMicros

/-- The date of the moment. -/
def date (m : Moment) : Date := Date.ofDayNumber m.dayNumber

/-- The time of day of the moment. -/
def clock (m : Moment) : Clock :=
  let seconds := m.timeOfDay / 1000000
  ⟨seconds / 3600, seconds % 3600 / 60, seconds % 60, m.timeOfDay % 1000000⟩

/-- The days since the last Monday. The calendar begins with a Monday. -/
def weekday (m : Moment) : Nat := m.dayNumber % 7

/-- The moment a number of microseconds later, if it is in range. -/
def shift? (m : Moment) (micros : Int) : Option Moment :=
  ofInstant? (m.instant + micros)

/-- The midnight at which the moment's day begins. -/
def startOfDay (m : Moment) : Moment :=
  ⟨m.dayNumber * dayMicros, by
    have := m.inRange
    exact Nat.lt_of_le_of_lt (Nat.div_mul_le_self _ _) this⟩

/-- Whether the first moment is not later than the second. -/
def notAfter (a b : Moment) : Bool := a.instant ≤ b.instant

/-- The time of day with two digits each for hour, minute and second. -/
def clockText (m : Moment) : Text :=
  Duration.twoDigits m.clock.hour ++ ':' ::
    (Duration.twoDigits m.clock.minute ++ ':' :: Duration.twoDigits m.clock.second)

/-- The microseconds with six digits. -/
def microText (m : Moment) : Text :=
  Text.padStart 6 '0' (Text.ofNat m.clock.micro)

/-- The date and the time of day, with the microseconds if there are any. -/
def text (m : Moment) : Text :=
  m.date.text ++ ' ' :: m.clockText ++
    if m.clock.micro = 0 then [] else '.' :: m.microText

end Moment

end RecordFilter
