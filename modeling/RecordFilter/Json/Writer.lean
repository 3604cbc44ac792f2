import RecordFilter.Json.Reader
import RecordFilter.Value.Display

/-!
Writing data in JSON, on one line.

Characters are written as they are, apart from quotes, backslashes and control characters. Infinite
and undefined numbers have no form and are written as nothing. Values that the format does not
know are written as their texts.
-/

namespace RecordFilter.Json

/-- A character between quotes. -/
def escape (c : Char) : Text :=
  if c = '"' || c = '\\' then ['\\', c]
  else if c = '\n' then ['\\', 'n']
  else if c = '\r' then ['\\', 'r']
  else if c = '\t' then ['\\', 't']
  else if c = '\x0c' then ['\\', 'f']
  else if c = '\x08' then ['\\', 'b']
  else if c.toNat < 32 then '\\' :: 'u' :: Text.hexDigits 4 c.toNat
  else [c]

/-- A text in quotes. -/
def string (text : Text) : Text :=
  '"' :: text.flatMap escape ++ ['"']

mutual

/-- A value in its written form. -/
def write : Value → Text
  | .null => "null".toList
  | .boolean b => if b then "true".toList else "false".toList
  | .integer i => Text.ofInt i
  | .size n => Text.ofInt n
  | .float x => if x.isFinite then x.text else "null".toList
  | .text t => string t
  | .duration d => string d.text
  | .date d => string d.text
  | .moment m => string m.text
  | .tuple items => '[' :: Text.join ", ".toList (writeAll items) ++ [']']
  | .list items => '[' :: Text.join ", ".toList (writeAll items) ++ [']']
  | .dict entries => '\x7b' :: Text.join ", ".toList (writeEntries entries) ++ ['\x7d']

/-- Values in a row in their written forms. -/
def writeAll : List Value → List Text
  | [] => []
  | item :: items => write item :: writeAll items

/-- The members of an object in their written forms. -/
def writeEntries : List (Text × Value) → List Text
  | [] => []
  | (name, value) :: entries => (string name ++ ": ".toList ++ write value) :: writeEntries entries

end

mutual

/-- How many values are nested in one another, the value itself counted. -/
def height : Value → Nat
  | .tuple items | .list items => heightOfAll items + 1
  | .dict entries => heightOfEntries entries + 1
  | _ => 1

/-- The greatest height among values in a row. -/
def heightOfAll : List Value → Nat
  | [] => 0
  | item :: items => max (height item) (heightOfAll items)

/-- The greatest height among the values of members. -/
def heightOfEntries : List (Text × Value) → Nat
  | [] => 0
  | (_, value) :: entries => max (height value) (heightOfEntries entries)

end

mutual

/-- Whether an integer in the value has more digits than are written out. -/
def hasLongNumber : Value → Bool
  | .integer i | .size i => writtenLimit ≤ i.natAbs
  | .tuple items | .list items => anyLongNumber items
  | .dict entries => anyLongMember entries
  | _ => false

/-- Whether one of the values in a row has an integer that is too long. -/
def anyLongNumber : List Value → Bool
  | [] => false
  | item :: items => hasLongNumber item || anyLongNumber items

/-- Whether the value of one of the members has an integer that is too long. -/
def anyLongMember : List (Text × Value) → Bool
  | [] => false
  | (_, value) :: entries => hasLongNumber value || anyLongMember entries

end

end RecordFilter.Json
