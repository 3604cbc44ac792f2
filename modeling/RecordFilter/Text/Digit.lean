import RecordFilter.Text.Basic

/-!
Decimal digits. Every script with a positional decimal notation has ten consecutive code points
for its digits, so a list of the zeros describes them all.
-/

namespace RecordFilter.Text

/-- The code points of the digits zero, one script after the other. -/
def zeroPoints : List Nat :=
  [48, 1632, 1776, 1984, 2406, 2534, 2662, 2790, 2918, 3046, 3174, 3302, 3430, 3558, 3664, 3792,
   3872, 4160, 4240, 6112, 6160, 6470, 6608, 6784, 6800, 6992, 7088, 7232, 7248, 42528, 43216,
   43264, 43472, 43504, 43600, 44016, 65296, 66720, 68912, 69734, 69872, 69942, 70096, 70384,
   70736, 70864, 71248, 71360, 71472, 71904, 72016, 72784, 73040, 73120, 92768, 92864, 93008,
   120782, 120792, 120802, 120812, 120822, 123200, 123632, 125264, 130032]

/-- The value of a decimal digit of any script. -/
def digitValue? (c : Char) : Option Nat :=
  (zeroPoints.find? fun start => start ≤ c.toNat && c.toNat < start + 10).map (c.toNat - ·)

/-- The decimal digits of any script. -/
def isDecimalDigit (c : Char) : Bool :=
  (digitValue? c).isSome

/-- The ten digits in common use. -/
def isPlainDigit (c : Char) : Bool :=
  '0' ≤ c && c ≤ '9'

/-- The value of a digit in common use. -/
def plainDigitValue (c : Char) : Nat :=
  c.toNat - 48

/-- The number that a row of plain digits stands for. -/
def ofDigits (digits : Text) : Nat :=
  digits.foldl (fun n c => 10 * n + plainDigitValue c) 0

/-- The digits to the base sixteen. -/
def isHexDigit (c : Char) : Bool :=
  isPlainDigit c || ('a' ≤ c && c ≤ 'f') || ('A' ≤ c && c ≤ 'F')

/-- The value of a digit to a base up to sixteen. -/
def hexDigitValue (c : Char) : Nat :=
  if isPlainDigit c then plainDigitValue c else c.toLower.toNat - 87

/-- The number that a row of digits stands for. -/
def ofBase (base : Nat) (digits : Text) : Nat :=
  digits.foldl (fun n c => base * n + hexDigitValue c) 0

/-- The digits of a number. -/
def ofNat (n : Nat) : Text :=
  Nat.toDigits 10 n

/-- The digits of an integer, with a sign if it is negative. -/
def ofInt (i : Int) : Text :=
  if i < 0 then '-' :: ofNat i.natAbs else ofNat i.natAbs

end RecordFilter.Text
