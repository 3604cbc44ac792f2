import RecordFilter.Calendar.Moment
import RecordFilter.Text.Blank
import RecordFilter.Text.Digit

/-!
Written dates.

A layout is a row of fields, gaps and fixed characters. A field may offer several readings of the
text before it, the longest number first; the reading of a layout is the first choice of readings
with which the whole layout fits. Letters fit in either case, a gap fits any run of blanks, and
digits may come from any script where the field does not fix them.
-/

namespace RecordFilter.Calendar

/-- A part of a layout. -/
inductive Field
  | year | month | monthName | monthAbbreviation | day | hour | minute | second
  /-- One or more blanks. -/
  | gap
  /-- A fixed character, in either case. -/
  | fixed (c : Char)
  deriving DecidableEq

/-- What a layout has read so far. -/
structure Reading where
  year : Nat := 1900
  month : Nat := 1
  day : Nat := 1
  hour : Nat := 0
  minute : Nat := 0
  second : Nat := 0
  deriving DecidableEq

/-- The names of the months. -/
def monthNames : List Text :=
  ["january".toList, "february".toList, "march".toList, "april".toList, "may".toList,
    "june".toList, "july".toList, "august".toList, "september".toList, "october".toList,
    "november".toList, "december".toList]

/-- The abbreviations of the months: the first three letters of each name. -/
def monthAbbreviations : List Text :=
  monthNames.map (·.take 3)

/-- Whether the text begins with the word, in any letter case. -/
def beginsWith (word text : Text) : Bool :=
  (text.take word.length).map Char.toLower == word

/-- The month whose name the text begins with, and the rest. -/
def readName (names : List Text) (text : Text) : List (Nat × Text) :=
  (names.zipIdx 1).filterMap fun (name, month) =>
    if beginsWith name text then some (month, text.drop name.length) else none

/-- The value of a plain digit between two bounds. -/
def plainDigit? (low high : Nat) (c : Char) : Option Nat :=
  if Text.isPlainDigit c && low ≤ Text.plainDigitValue c && Text.plainDigitValue c ≤ high then
    some (Text.plainDigitValue c)
  else none

/-- A two-digit number: a plain first digit within bounds, then a digit that `second` accepts. -/
def twoDigits (low high : Nat) (second : Char → Option Nat) : Text → List (Nat × Text)
  | a :: b :: rest =>
    match plainDigit? low high a, second b with
    | some x, some y => [(10 * x + y, rest)]
    | _, _ => []
  | _ => []

/-- A one-digit number that `digit` accepts. -/
def oneDigit (digit : Char → Option Nat) : Text → List (Nat × Text)
  | a :: rest => (digit a).toList.map (·, rest)
  | [] => []

/-- A digit of any script. -/
def anyDigit? : Char → Option Nat := Text.digitValue?

/-- The readings of a day: 30 and 31, 10 to 29, 01 to 09, 1 to 9, and 1 to 9 after a space. -/
def readDay (text : Text) : List (Nat × Text) :=
  twoDigits 3 3 (plainDigit? 0 1) text ++ twoDigits 1 2 anyDigit? text ++
    twoDigits 0 0 (plainDigit? 1 9) text ++ oneDigit (plainDigit? 1 9) text ++
    match text with
    | ' ' :: rest => oneDigit (plainDigit? 1 9) rest
    | _ => []

/-- The readings of a month: 10 to 12, 01 to 09, and 1 to 9. -/
def readMonth (text : Text) : List (Nat × Text) :=
  twoDigits 1 1 (plainDigit? 0 2) text ++ twoDigits 0 0 (plainDigit? 1 9) text ++
    oneDigit (plainDigit? 1 9) text

/-- The readings of an hour: 20 to 23, 00 to 19, and one digit. -/
def readHour (text : Text) : List (Nat × Text) :=
  twoDigits 2 2 (plainDigit? 0 3) text ++ twoDigits 0 1 anyDigit? text ++ oneDigit anyDigit? text

/-- The readings of a minute: 00 to 59, and one digit. -/
def readMinute (text : Text) : List (Nat × Text) :=
  twoDigits 0 5 anyDigit? text ++ oneDigit anyDigit? text

/-- The readings of a second: 60 and 61, 00 to 59, and one digit. -/
def readSecond (text : Text) : List (Nat × Text) :=
  twoDigits 6 6 (plainDigit? 0 1) text ++ readMinute text

/-- The reading of a year: four digits. -/
def readYear : Text → List (Nat × Text)
  | a :: b :: c :: d :: rest =>
    match anyDigit? a, anyDigit? b, anyDigit? c, anyDigit? d with
    | some w, some x, some y, some z => [(1000 * w + 100 * x + 10 * y + z, rest)]
    | _, _, _, _ => []
  | _ => []

/-- What may follow one or more blanks: the rest after all of them first, then after fewer. -/
def afterBlanks : Text → List Text
  | [] => []
  | c :: rest => if Text.isBlank c then afterBlanks rest ++ [rest] else []

/-- The readings of a part of a layout. -/
def Field.read (field : Field) (r : Reading) (text : Text) : List (Reading × Text) :=
  match field with
  | year => (readYear text).map fun (n, rest) => ({ r with year := n }, rest)
  | month => (readMonth text).map fun (n, rest) => ({ r with month := n }, rest)
  | monthName => (readName monthNames text).map fun (n, rest) => ({ r with month := n }, rest)
  | monthAbbreviation =>
    (readName monthAbbreviations text).map fun (n, rest) => ({ r with month := n }, rest)
  | day => (readDay text).map fun (n, rest) => ({ r with day := n }, rest)
  | hour => (readHour text).map fun (n, rest) => ({ r with hour := n }, rest)
  | minute => (readMinute text).map fun (n, rest) => ({ r with minute := n }, rest)
  | second => (readSecond text).map fun (n, rest) => ({ r with second := n }, rest)
  | gap => (afterBlanks text).map (r, ·)
  | fixed c =>
    match text with
    | d :: rest => if d.toLower = c.toLower then [(r, rest)] else []
    | [] => []

/-- The first reading of the fields one after the other, and what it leaves of the text. -/
def readFields : List Field → Reading → Text → Option (Reading × Text)
  | [], r, text => some (r, text)
  | field :: fields, r, text =>
    (field.read r text).findSome? fun (r, rest) => readFields fields r rest

/-- The time of day `H:M:S`. -/
def clockFields : List Field :=
  [.hour, .fixed ':', .minute, .fixed ':', .second]

/-- The date `Y-M-D`. -/
def dateFields : List Field :=
  [.year, .fixed '-', .month, .fixed '-', .day]

/-- A way to write a date, a time of day or both. -/
inductive Layout
  /-- `2024-03-15` -/
  | date
  /-- `2024-03-15 10:20:30` -/
  | dateTime
  /-- `2024-03-15T10:20:30Z` -/
  | stamp
  /-- `03/15/2024` -/
  | slashes
  /-- `10:20:30` -/
  | clock
  /-- `Mar 15, 2024` -/
  | short
  /-- `March 15, 2024 10:20:30` -/
  | long
  deriving DecidableEq

/-- The fields of a layout. -/
def Layout.fields : Layout → List Field
  | date => dateFields
  | dateTime => dateFields ++ .gap :: clockFields
  | stamp => dateFields ++ .fixed 'T' :: clockFields ++ [.fixed 'Z']
  | slashes => [.month, .fixed '/', .day, .fixed '/', .year]
  | clock => clockFields
  | short => [.monthAbbreviation, .gap, .day, .fixed ',', .gap, .year]
  | long => [.monthName, .gap, .day, .fixed ',', .gap, .year, .gap] ++ clockFields

/-- The layouts in the order in which they are tried. -/
def layouts : List Layout :=
  [.date, .dateTime, .stamp, .slashes, .clock, .short, .long]

/-- The moment that a text in a layout stands for. The first reading must leave nothing over and
    name an existing date and time; a time of day on its own is a time of the day `today`. -/
def Layout.read? (layout : Layout) (today : Date) (text : Text) : Option Moment :=
  match readFields layout.fields {} text with
  | some (r, []) =>
    let written : Date := ⟨r.year, r.month, r.day⟩
    Moment.of? (if layout = .clock then today else written) ⟨r.hour, r.minute, r.second, 0⟩
  | _ => none

/-- The moment that a text stands for in the first layout that reads it. -/
def readMoment? (now : Moment) (text : Text) : Option Moment :=
  layouts.findSome? fun layout => layout.read? now.date text

end RecordFilter.Calendar
