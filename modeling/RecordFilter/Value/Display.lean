import RecordFilter.Number.Shortest
import RecordFilter.Text.Quoted
import RecordFilter.Value.Basic

/-!
The text of a value, by which values are compared for equality and searched.

A text stands for itself and nothing is empty. Whole floating point numbers below `10 ^ 21` are
written as integers, and durations in clock form. Inside of a tuple, list or dictionary every value
is written in the form in which a program would denote it, texts in quotes. There is no such form
where values are nested too deeply.
-/

namespace RecordFilter

/-- The magnitude from which on an integer has more digits than are written out. -/
def writtenLimit : Nat := Nat.pow 10 digitLimit

/-- The digits of an integer that is not too long. -/
def integerText (i : Int) : Except Fault Text :=
  if i.natAbs < writtenLimit then .ok (Text.ofInt i) else .error .tooManyDigits

namespace Duration

/-- The denotation of a duration: its days, seconds and microseconds, those that are not zero. Only
    the days may be negative. -/
def denoted (d : Duration) : Text :=
  let days := d.micros / microsPerDay
  let rest := (d.micros % microsPerDay).toNat
  let part (name : String) (n : Int) : List Text :=
    if n = 0 then [] else [name.toList ++ '=' :: Text.ofInt n]
  let parts := part "days" days ++ part "seconds" (rest / 1000000 : Nat) ++
    part "microseconds" (rest % 1000000 : Nat)
  "datetime.timedelta(".toList ++
    (if parts.isEmpty then ['0'] else Text.join ", ".toList parts) ++ [')']

end Duration

/-- Numbers in a row, as arguments are written. -/
def argumentText (numbers : List Nat) : Text :=
  '(' :: Text.join ", ".toList (numbers.map Text.ofNat) ++ [')']

/-- The denotation of a date. -/
def Date.denoted (d : Date) : Text :=
  "datetime.date".toList ++ argumentText [d.year, d.month, d.day]

/-- The denotation of a moment, without seconds and microseconds that are zero. -/
def Moment.denoted (m : Moment) : Text :=
  let d := m.date
  let c := m.clock
  let tail :=
    if c.micro ≠ 0 then [c.second, c.micro] else if c.second ≠ 0 then [c.second] else []
  "datetime.datetime".toList ++
    argumentText ([d.year, d.month, d.day, c.hour, c.minute] ++ tail)

namespace Value

/-- The text of a tuple, in which a single item is followed by a comma. -/
def tupleText : List Text → Text
  | [item] => '(' :: item ++ ",)".toList
  | items => '(' :: Text.join ", ".toList items ++ [')']

/-- How many values may be nested in one another, the outermost one counted, for it to have a
    denotation. -/
def nestingLimit : Nat := 984

mutual

/-- The denotation of a value that there is room for, where every value takes one place of the room
    that it is nested in. -/
def denotedWithin : Nat → Value → Except Fault Text
  | 0, _ => .error .nestedTooDeeply
  | _ + 1, null => .ok "None".toList
  | _ + 1, boolean b => .ok (if b then "True".toList else "False".toList)
  | _ + 1, integer i => integerText i
  | _ + 1, float x => .ok x.text
  | _ + 1, size n => return "ByteSize(".toList ++ (← integerText n) ++ [')']
  | _ + 1, duration d => .ok d.denoted
  | _ + 1, date d => .ok d.denoted
  | _ + 1, moment m => .ok m.denoted
  | _ + 1, text t => .ok (Text.quoted t)
  | room + 1, tuple items => return tupleText (← denotedAll room items)
  | room + 1, list items => return '[' :: Text.join ", ".toList (← denotedAll room items) ++ [']']
  | room + 1, dict entries =>
    return '\x7b' :: Text.join ", ".toList (← denotedEntries room entries) ++ ['\x7d']

/-- The denotations of values in a row. -/
def denotedAll (room : Nat) : List Value → Except Fault (List Text)
  | [] => .ok []
  | item :: items => return (← denotedWithin room item) :: (← denotedAll room items)

/-- The denotations of the entries of a dictionary. -/
def denotedEntries (room : Nat) : List (Text × Value) → Except Fault (List Text)
  | [] => .ok []
  | (key, value) :: entries =>
    return (Text.quoted key ++ ": ".toList ++ (← denotedWithin room value)) ::
      (← denotedEntries room entries)

end

/-- The denotation of a value. -/
def denoted (value : Value) : Except Fault Text :=
  denotedWithin nestingLimit value

/-- The magnitude from which on whole floating point numbers are not written as integers. -/
def wholeLimit : Nat := Nat.pow 10 21

/-- The text of a floating point number. -/
def floatText (x : Binary64) : Text :=
  match x.toInt? with
  | some i => if i.natAbs < wholeLimit then Text.ofInt i else x.text
  | none => x.text

/-- The text of a value. -/
def display : Value → Except Fault Text
  | null => .ok []
  | boolean b => .ok (if b then "true".toList else "false".toList)
  | integer i => integerText i
  | float x => .ok (floatText x)
  | size n => integerText n
  | duration d => .ok d.text
  | date d => .ok d.text
  | moment m => .ok m.text
  | text t => .ok t
  | tuple items => denoted (tuple items)
  | list items => denoted (list items)
  | dict entries => denoted (dict entries)

end Value

end RecordFilter
