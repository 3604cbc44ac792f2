import RecordFilter.Calendar.Range
import RecordFilter.Value.Basic

/-!
Records whose dates lie in a range.
-/

namespace RecordFilter

/-- The point in time of a date or a moment. A date is taken at its midnight. -/
def Value.dated? : Value → Option Moment
  | .moment m => some m
  | .date d => Moment.of? d ⟨0, 0, 0, 0⟩
  | _ => none

namespace DateRange

/-- Whether the range contains a date or a moment. Of other values it cannot be asked. -/
def contains? (range : DateRange) (value : Value) : Option Bool :=
  value.dated?.map range.interval.holds

/-- Whether a value of a record lies in the range. A text stands for the date that is written in
    it, and a value without a date lies in no range. -/
def holdsValue (range : DateRange) (now : Moment) : Value → Bool
  | .text t => (Calendar.readMoment? now (Text.trim t)).any range.interval.holds
  | value => (range.contains? value).getD false

/-- Whether the field of the range has a date in the range. A range without a field has no
    records. -/
def selects (range : DateRange) (now : Moment) (record : Record) : Bool :=
  match range.field with
  | none => false
  | some field => (record.lookup field).any (range.holdsValue now)

end DateRange

end RecordFilter
