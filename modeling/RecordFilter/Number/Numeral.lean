import RecordFilter.Number.Binary64
import RecordFilter.Text.Case
import RecordFilter.Text.Digit

/-!
Numerals: the written forms of integers and floating point numbers.

An integer is a row of plain digits with an optional sign. A floating point numeral has digits on
at least one side of an optional point and an optional exponent, or is a name for an infinite or
undefined number in any letter case.
-/

namespace RecordFilter

/-- The most digits of an integer that are converted to a number or back. -/
def digitLimit : Nat := 4300

namespace Numeral

/-- A sign, if the text begins with one, and the rest. -/
def takeSign : Text → Bool × Text
  | '+' :: rest => (false, rest)
  | '-' :: rest => (true, rest)
  | text => (false, text)

/-- Whether the text is a row of one or more plain digits. -/
def isDigits (text : Text) : Bool :=
  !text.isEmpty && text.all Text.isPlainDigit

/-- The longest row of plain digits that the text begins with, and the rest. -/
def takeDigits (text : Text) : Text × Text :=
  text.span Text.isPlainDigit

/-- What an integer numeral is made of. -/
structure IntegerForm where
  negative : Bool
  digits : Text

/-- An integer numeral, taken apart. -/
def IntegerForm.read? (text : Text) : Option IntegerForm :=
  let (negative, digits) := takeSign text
  if isDigits digits then some ⟨negative, digits⟩ else none

/-- The integer that the numeral stands for. -/
def IntegerForm.value (form : IntegerForm) : Int :=
  if form.negative then -(Text.ofDigits form.digits) else Text.ofDigits form.digits

/-- What a decimal numeral is made of: the digits before and after the point, and the exponent. -/
structure DecimalForm where
  whole : Text
  fraction : Text
  exponent : Int

/-- An exponent: a mark, an optional sign and digits. The empty text is an exponent of zero. -/
def readExponent? : Text → Option Int
  | [] => some 0
  | mark :: rest =>
    if mark = 'e' ∨ mark = 'E' then
      let (negative, digits) := takeSign rest
      if isDigits digits then
        some (if negative then -(Text.ofDigits digits) else Text.ofDigits digits)
      else none
    else none

/-- A decimal numeral without a sign, taken apart. -/
def DecimalForm.read? (text : Text) : Option DecimalForm :=
  let (whole, rest) := takeDigits text
  let (fraction, rest) := match rest with
    | '.' :: rest => takeDigits rest
    | rest => ([], rest)
  if whole.isEmpty && fraction.isEmpty then none
  else (readExponent? rest).map fun exponent => ⟨whole, fraction, exponent⟩

/-- The number nearest to the numeral's value. -/
def DecimalForm.value (negative : Bool) (form : DecimalForm) : Binary64 :=
  Binary64.ofDecimal negative (Text.ofDigits (form.whole ++ form.fraction))
    (form.exponent - form.fraction.length)

/-- The number that a name stands for. -/
def named? (negative : Bool) (text : Text) : Option Binary64 :=
  let name := text.map Char.toLower
  if name = "inf".toList ∨ name = "infinity".toList then some (.infinite negative)
  else if name = "nan".toList then some .nan
  else none

/-- The number that a floating point numeral stands for. -/
def readFloat? (text : Text) : Option Binary64 :=
  let (negative, rest) := takeSign text
  match DecimalForm.read? rest with
  | some form => some (form.value negative)
  | none => named? negative rest

end Numeral

end RecordFilter
