import RecordFilter.Quantity.Number
import RecordFilter.Text.Blank

/-!
Durations, in whole microseconds.

A duration has two written forms. The clock form `[D-]H:MM:SS` is exact; it is also the form in
which durations are shown. The compact form `1h30m` adds up numbers with units as floating point
nanoseconds and rounds the sum to a microsecond, ties to even.
-/

namespace RecordFilter

/-- The microseconds of a second. -/
def microsPerSecond : Int := 1000000

/-- The microseconds of a day. -/
def microsPerDay : Int := 86400 * microsPerSecond

/-- A span of time of at most 999999999 days either way, the last day included. -/
structure Duration where
  micros : Int
  inRange : -999999999 * microsPerDay ≤ micros ∧ micros < 1000000000 * microsPerDay
  deriving DecidableEq

namespace Duration

/-- The duration of a number of microseconds, if it is in range. -/
def ofMicros? (micros : Int) : Option Duration :=
  if h : -999999999 * microsPerDay ≤ micros ∧ micros < 1000000000 * microsPerDay then
    some ⟨micros, h⟩
  else none

/-- The duration of a number of seconds, if it is in range. -/
def ofSeconds? (seconds : Int) : Option Duration :=
  ofMicros? (seconds * microsPerSecond)

/-- The empty span. -/
def zero : Duration := ⟨0, by decide⟩

instance : Inhabited Duration := ⟨zero⟩

/-- A number with at least two digits. -/
def twoDigits (n : Nat) : Text :=
  Text.padStart 2 '0' (Text.ofNat n)

/-- The clock form: days if there are any, hours, minutes, seconds, and the microseconds if there
    are any. -/
def text (d : Duration) : Text :=
  let micros := d.micros.natAbs
  let seconds := micros / 1000000
  let days := seconds / 86400
  let hours := seconds % 86400 / 3600
  let minutes := seconds % 3600 / 60
  let clock := ':' :: twoDigits minutes ++ ':' :: twoDigits (seconds % 60)
  let body :=
    if days = 0 then Text.ofNat hours ++ clock
    else Text.ofNat days ++ '-' :: twoDigits hours ++ clock
  let fraction :=
    if micros % 1000000 = 0 then []
    else '.' :: Text.padStart 6 '0' (Text.ofNat (micros % 1000000))
  if d.micros < 0 then '-' :: (body ++ fraction) else body ++ fraction

/-- The seconds as a floating point number. -/
def totalSeconds (d : Duration) : Binary64 :=
  Binary64.rounded (d.micros < 0) (d.micros.natAbs * Binary64.scale) 1000000

/-- The days and the clock part of a clock form: what is before and after the first hyphen. -/
def splitDays (text : Text) : Except ReadError (Int × Text) :=
  match Text.cut? ['-'] text with
  | none => .ok (0, text)
  | some (days, clock) => (Quantity.readInteger days).map (·, clock)

/-- The seconds of a clock part `H:M:S`, in which every number may have a sign. -/
def readClock (clock : Text) : Except ReadError Int :=
  match Text.splitOn [':'] clock with
  | [hours, minutes, seconds] => do
    let h ← Quantity.readInteger hours
    let m ← Quantity.readInteger minutes
    let s ← Quantity.readInteger seconds
    return h * 3600 + m * 60 + s
  | _ => .error (.notClockTime clock)

/-- Reads the clock form. -/
def readCluster (text : Text) : Except ReadError Duration :=
  let text := Text.trim text
  if ':' ∈ text then do
    let (days, clock) ← splitDays text
    let seconds ← readClock clock
    match ofSeconds? (days * 86400 + seconds) with
    | some d => .ok d
    | none => .error (.clusterDurationOutOfRange text)
  else .error (.notClusterDuration text)

/-- A unit at the beginning of a text: its nanoseconds and the rest. A two-letter unit is taken
    before a one-letter unit that it begins with. -/
def takeUnit? : Text → Option (Nat × Text)
  | 'n' :: 's' :: rest => some (1, rest)
  | 'u' :: 's' :: rest => some (1000, rest)
  | 'µ' :: 's' :: rest => some (1000, rest)
  | 'μ' :: 's' :: rest => some (1000, rest)
  | 'm' :: 's' :: rest => some (1000000, rest)
  | 's' :: rest => some (1000000000, rest)
  | 'm' :: rest => some (60 * 1000000000, rest)
  | 'h' :: rest => some (3600 * 1000000000, rest)
  | _ => none

/-- A number with an optional point at the beginning of a text, with a digit on one side of the
    point at least. -/
def takeNumber (text : Text) : Option (Binary64 × Text) :=
  let (whole, rest) := Numeral.takeDigits text
  let (fraction, rest) := match rest with
    | '.' :: rest => Numeral.takeDigits rest
    | rest => ([], rest)
  if whole.isEmpty && fraction.isEmpty then none
  else some (Numeral.DecimalForm.value false ⟨whole, fraction, 0⟩, rest)

/-- A number with a unit at the beginning of a text, as nanoseconds. -/
def takePart? (text : Text) : Option (Binary64 × Text) := do
  let (number, rest) ← takeNumber text
  let (unit, rest) ← takeUnit? rest
  return (number.mul (Binary64.ofRatio unit 1), rest)

/-- The sum of the parts of a text. The fuel bounds the number of parts. -/
def sumParts (fuel : Nat) (total : Binary64) (text : Text) : Option Binary64 :=
  match fuel, text with
  | _, [] => some total
  | 0, _ :: _ => none
  | fuel + 1, text => do
    let (part, rest) ← takePart? text
    sumParts fuel (total.add part) rest

/-- The duration of a number of nanoseconds, to the nearest microsecond. -/
def ofNanos? (negative : Bool) (nanos : Binary64) : Option Duration := do
  let signed := if negative then nanos.neg else nanos
  let micros ← (signed.div (Binary64.ofRatio 1000 1)).nearestInt?
  ofMicros? micros

/-- Reads the compact form. Every number needs a unit, except a zero on its own. -/
def readCompact (text : Text) : Except ReadError Duration :=
  let (negative, rest) := Numeral.takeSign text
  if rest = ['0'] then .ok zero
  else if rest.isEmpty then .error (.notDuration text)
  else
    match sumParts rest.length (Binary64.zero false) rest with
    | none => .error (.notDuration text)
    | some nanos =>
      match ofNanos? negative nanos with
      | none => .error (.durationOutOfRange text)
      | some d => .ok d

end Duration

end RecordFilter
