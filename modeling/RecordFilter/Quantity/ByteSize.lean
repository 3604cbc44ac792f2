import RecordFilter.Quantity.Number
import RecordFilter.Text.Blank

/-!
Memory sizes such as `4G`, `512MB` or `1.5 T`: a number and a binary unit in any letter case.

The product of number and unit is computed as a floating point number, and the bytes of a size
are its whole part.
-/

namespace RecordFilter.Quantity

/-- The power of two that a unit stands for, by its letter. -/
def sizeBits? (letter : Char) : Option Nat :=
  if letter = 'K' then some 10
  else if letter = 'M' then some 20
  else if letter = 'G' then some 30
  else if letter = 'T' then some 40
  else none

/-- A unit without the `B` at its end. -/
def unitLetter (unit : Text) : Text :=
  if unit.getLast? = some 'B' then unit.dropLast else unit

/-- The binary places of a unit in capitals: an optional letter and an optional `B`. -/
def unitBits? (unit : Text) : Option Nat :=
  match unitLetter unit with
  | [] => some 0
  | [letter] => sizeBits? letter
  | _ => none

/-- What a size is made of: the digits of its number and the binary places of its unit. -/
structure SizeForm where
  whole : Text
  fraction : Text
  bits : Nat

/-- A size in capitals and without outer blanks, taken apart. A point has digits on both sides. -/
def SizeForm.read? (text : Text) : Option SizeForm :=
  let (whole, rest) := Numeral.takeDigits text
  let number := match rest with
    | '.' :: rest =>
      let (fraction, rest) := Numeral.takeDigits rest
      if fraction.isEmpty then none else some (fraction, rest)
    | rest => some ([], rest)
  if whole.isEmpty then none
  else
    number.bind fun (fraction, rest) =>
      (unitBits? (rest.dropWhile Text.isBlank)).map fun bits => ⟨whole, fraction, bits⟩

/-- The number of the size, rounded. -/
def SizeForm.number (form : SizeForm) : Binary64 :=
  Numeral.DecimalForm.value false ⟨form.whole, form.fraction, 0⟩

/-- The size in bytes as a floating point number. -/
def SizeForm.product (form : SizeForm) : Binary64 :=
  form.number.mul (Binary64.ofRatio (Nat.pow 2 form.bits) 1)

/-- Reads a memory size as a count of bytes. -/
def readSize (text : Text) : Except ReadError Int :=
  match SizeForm.read? (Text.upper (Text.trim text)) with
  | none => .error (.notSize text)
  | some form =>
    match form.product.truncate? with
    | none => .error (.sizeOutOfRange text)
    | some bytes => .ok bytes

end RecordFilter.Quantity
