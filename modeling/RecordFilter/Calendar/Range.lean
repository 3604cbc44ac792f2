import RecordFilter.Calendar.Layout
import RecordFilter.Number.Numeral
import RecordFilter.Text.Case

/-!
Date ranges: phrases such as `last 7 days`, two dates with `..` between them, or one date for its
whole day.

A range holds both its ends, and a range of whole days ends one microsecond before midnight. Some
phrases leave the calendar near its ends: moving by days is then out of range for the phrase,
while stepping to a month of a year that does not exist has no answer at all.
-/

namespace RecordFilter

/-- Why a text is no date or date range. -/
inductive DateError
  | unrecognized (text : Text)
  | badRange (text : Text)
  | badStart (cause : Text)
  | badEnd (cause : Text)
  | outOfRange (text : Text)
  /-- A month in a year that the calendar does not have. -/
  | noSuchYear
  /-- A count with more digits than are converted. -/
  | tooManyDigits
  deriving DecidableEq

/-- Whether the text itself is at fault, and not a step that the calendar cannot make. -/
def DateError.isAboutText : DateError → Bool
  | noSuchYear | tooManyDigits => false
  | _ => true

/-- The wording of a date error. -/
def DateError.message : DateError → Text
  | unrecognized text => "unrecognized date format: ".toList ++ text
  | badRange text => "invalid date range format: ".toList ++ text
  | badStart cause => "invalid start date: ".toList ++ cause
  | badEnd cause => "invalid end date: ".toList ++ cause
  | outOfRange text => "date out of range: ".toList ++ text
  | noSuchYear => "year out of range".toList
  | tooManyDigits => "count with too many digits".toList

/-- An interval of time with both ends in it. -/
structure Interval where
  start : Moment
  stop : Moment
  deriving DecidableEq

namespace Interval

open Calendar

/-- Whether the moment lies between the ends. -/
def holds (i : Interval) (m : Moment) : Bool :=
  i.start.notAfter m && m.notAfter i.stop

/-- The interval of `micros` microseconds from a moment on, without its upper end. -/
def span (start : Moment) (micros : Int) : Except DateError Interval :=
  match start.shift? micros with
  | none => .error (.outOfRange [])
  | some next =>
    match next.shift? (-1) with
    | none => .error (.outOfRange [])
    | some stop => .ok ⟨start, stop⟩

/-- The moment `days` days later. -/
def moveDays (m : Moment) (days : Int) : Except DateError Moment :=
  match m.shift? (days * dayMicros) with
  | none => .error (.outOfRange [])
  | some moved => .ok moved

/-- The whole day of a moment. -/
def wholeDay (m : Moment) : Except DateError Interval :=
  span m.startOfDay dayMicros

/-- The whole week of a moment, Monday to Sunday, `weeks` weeks later. -/
def wholeWeek (m : Moment) (weeks : Int) : Except DateError Interval := do
  let monday ← moveDays m (-(m.weekday : Int))
  let monday ← moveDays monday.startOfDay (7 * weeks)
  span monday (7 * dayMicros)

/-- The first moment of a month, with the months counted from the first one of year 0. -/
def monthStart (index : Int) : Except DateError Moment :=
  match Moment.of? ⟨(index / 12).toNat, (index % 12).toNat + 1, 1⟩ ⟨0, 0, 0, 0⟩ with
  | none => .error .noSuchYear
  | some m => .ok m

/-- The whole month of a moment, `months` months later. -/
def wholeMonth (m : Moment) (months : Int) : Except DateError Interval := do
  let index : Int := m.date.year * 12 + (m.date.month - 1) + months
  let first ← monthStart index
  let next ← monthStart (index + 1)
  match next.shift? (-1) with
  | none => .error (.outOfRange [])
  | some stop => return ⟨first, stop⟩

/-- The time up to a moment, of a length in microseconds that is itself a duration. -/
def upTo (m : Moment) (micros : Int) : Except DateError Interval :=
  match Duration.ofMicros? micros with
  | none => .error (.outOfRange [])
  | some d =>
    match m.shift? (-d.micros) with
    | none => .error (.outOfRange [])
    | some start => .ok ⟨start, m⟩

end Interval

namespace DatePhrase

open Calendar RecordFilter.Interval

/-- The spellings of a minute, an hour and a day, with their microseconds. -/
def unitWords : List (Text × Nat) :=
  [("d".toList, dayMicros), ("day".toList, dayMicros), ("days".toList, dayMicros),
    ("h".toList, 3600000000), ("hour".toList, 3600000000), ("hours".toList, 3600000000),
    ("m".toList, 60000000), ("min".toList, 60000000), ("minute".toList, 60000000),
    ("minutes".toList, 60000000)]

/-- The microseconds of a unit. A unit may have a further `s` at its end. -/
def unitMicros? (word : Text) : Option Nat :=
  (unitWords.find? fun (unit, _) => word = unit || word = unit ++ ['s']).map (·.2)

/-- The windows that are listed, with their microseconds. -/
def windows : List (Text × Nat) :=
  [("last 24h".toList, 24 * 3600000000), ("last 24 hours".toList, 24 * 3600000000),
    ("last 7d".toList, 7 * dayMicros), ("last 7 days".toList, 7 * dayMicros),
    ("last 30d".toList, 30 * dayMicros), ("last 30 days".toList, 30 * dayMicros)]

/-- The number that digits of any script stand for. -/
def countOf (digits : Text) : Nat :=
  digits.foldl (fun n c => 10 * n + (Text.digitValue? c).getD 0) 0

/-- A count and a unit, such as `5 hours`: the digits and the microseconds of the unit. -/
def readCount? (text : Text) : Option (Text × Nat) :=
  let (digits, rest) := text.span Text.isDecimalDigit
  if digits.isEmpty then none
  else (unitMicros? (rest.dropWhile Text.isBlank)).map (digits, ·)

/-- The interval of a phrase in small letters, if the text is a phrase. -/
def read? (now : Moment) (text : Text) : Option (Except DateError Interval) :=
  if text = "today".toList then some (wholeDay now)
  else if text = "yesterday".toList then some (do wholeDay (← moveDays now (-1)))
  else if text = "this week".toList then some (wholeWeek now 0)
  else if text = "last week".toList then some (wholeWeek now (-1))
  else if text = "this month".toList then some (wholeMonth now 0)
  else if text = "last month".toList then some (wholeMonth now (-1))
  else
    match windows.lookup text with
    | some micros => some (upTo now micros)
    | none =>
      if "last ".toList.isPrefixOf text then
        (readCount? (text.drop 5)).map fun (digits, unit) =>
          if digits.length ≤ digitLimit then upTo now (countOf digits * unit)
          else .error .tooManyDigits
      else none

end DatePhrase

/-- A date range, and the record field that it is about, if there is one. -/
structure DateRange where
  interval : Interval
  field : Option Text := none
  deriving DecidableEq

namespace DateRange

open Calendar

/-- Reads one date. -/
def readDate (now : Moment) (text : Text) : Except DateError Moment :=
  match readMoment? now text with
  | some m => .ok m
  | none => .error (.unrecognized text)

/-- Reads the two ends of a range, or one whole day. -/
def readDates (now : Moment) (text : Text) : Except DateError Interval :=
  match Text.splitOn ['.', '.'] text with
  | [_] => do Interval.wholeDay (← readDate now text)
  | [first, second] =>
    match readDate now (Text.trim first) with
    | .error e => .error (.badStart e.message)
    | .ok start =>
      match readDate now (Text.trim second) with
      | .error e => .error (.badEnd e.message)
      | .ok stop => .ok ⟨start, stop⟩
  | _ => .error (.badRange text)

/-- Reads a phrase, two dates or one date. -/
def readInterval (now : Moment) (text : Text) : Except DateError Interval :=
  match DatePhrase.read? now (Text.lower text) with
  | some phrase => phrase
  | none => readDates now text

/-- Reads a date range. A step out of the calendar is put down to the text. -/
def read (now : Moment) (field : Option Text) (text : Text) : Except DateError DateRange :=
  let text := Text.trim text
  match readInterval now text with
  | .ok interval => .ok ⟨interval, field⟩
  | .error (.outOfRange _) => .error (.outOfRange text)
  | .error e => .error e

end DateRange

end RecordFilter
