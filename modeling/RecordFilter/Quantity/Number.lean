import RecordFilter.Number.Numeral
import RecordFilter.Quantity.ReadError

/-!
Plain quantities: integers, floating point numbers and truth values.
-/

namespace RecordFilter.Quantity

/-- Reads an integer numeral. Blanks and group separators are not part of one. -/
def readInteger (text : Text) : Except ReadError Int :=
  match Numeral.IntegerForm.read? text with
  | none => .error (.notInteger text)
  | some form =>
    if form.digits.length ≤ digitLimit then .ok form.value else .error .tooManyDigits

/-- The dotless and the dotted letter that match an `i` when case is ignored, as an `i`. -/
def plainI (c : Char) : Char :=
  if c = 'ı' ∨ c = 'İ' then 'i' else c

/-- Reads a floating point numeral. -/
def readFloat (text : Text) : Except ReadError Binary64 :=
  match Numeral.readFloat? text with
  | some x => .ok x
  | none =>
    if (Numeral.readFloat? (text.map plainI)).isSome then .error .foreignName
    else .error (.notFloat text)

/-- The spellings of true. -/
def trueWords : List Text :=
  ["1".toList, "t".toList, "T".toList, "TRUE".toList, "true".toList, "True".toList]

/-- The spellings of false. -/
def falseWords : List Text :=
  ["0".toList, "f".toList, "F".toList, "FALSE".toList, "false".toList, "False".toList]

/-- Reads a truth value. -/
def readBoolean (text : Text) : Except ReadError Bool :=
  if text ∈ trueWords then .ok true
  else if text ∈ falseWords then .ok false
  else .error (.notBoolean text)

end RecordFilter.Quantity
