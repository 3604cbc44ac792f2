import RecordFilter.Number.Binary64
import RecordFilter.Text.Digit

/-!
The text of a floating point number: the fewest decimal digits that read back as the number, and
of those texts the one nearest to it.

The numbers that round to a given one form an interval, whose ends belong to it when the number's
last significant bit is even. For one digit, two digits and so on, the two decimals next to the
number are tested against the interval, in exact integers.
-/

namespace RecordFilter.Binary64

/-- A positive decimal: `digits * 10 ^ exponent`. -/
structure Decimal where
  digits : Nat
  exponent : Int
  deriving DecidableEq, Repr

/-- The numbers that round to one count, in quarters of a quantum. -/
structure Interval where
  low : Nat
  high : Nat
  closed : Bool

/-- Half the distance to the next count on either side. Below a power of two the counts lie twice as
    close as above it. -/
def roundingInterval (quanta : Nat) : Interval :=
  let place := lastPlace quanta
  let unit := Nat.pow 2 place
  let significand := quanta / unit
  let below := if significand = Nat.pow 2 52 ∧ 0 < place then unit else 2 * unit
  ⟨4 * quanta - below, 4 * quanta + 2 * unit, significand % 2 = 0⟩

/-- Whether the fraction `num / den` lies in the interval. -/
def Interval.holds (i : Interval) (num den : Nat) : Bool :=
  if i.closed then i.low * den ≤ num && num ≤ i.high * den
  else i.low * den < num && num < i.high * den

/-- A step of the grid of multiples of `10 ^ exponent`, in quarters of a quantum. -/
def gridStep (exponent : Int) : Nat × Nat :=
  if 0 ≤ exponent then (4 * scale * Nat.pow 10 exponent.toNat, 1)
  else (4 * scale, Nat.pow 10 (-exponent).toNat)

/-- The decimal on a grid that reads back as the count: of the two grid points around it the one in
    its interval, or the nearer one if both are. -/
def onGrid? (quanta : Nat) (exponent : Int) : Option Decimal :=
  let interval := roundingInterval quanta
  let (num, den) := gridStep exponent
  let floor := 4 * quanta * den / num
  let holds := fun point => interval.holds (point * num) den
  match holds floor && floor != 0, holds (floor + 1) with
  | true, true =>
    let twice := 2 * (4 * quanta * den % num)
    let up := num < twice || (num == twice && floor % 2 == 1)
    some ⟨if up then floor + 1 else floor, exponent⟩
  | true, false => some ⟨floor, exponent⟩
  | false, true => some ⟨floor + 1, exponent⟩
  | false, false => none

/-- The least `k` such that the count is less than `10 ^ k`. -/
def magnitude (quanta : Nat) : Int :=
  let estimate := (((quanta.log2 : Int) - scaleBits) * 30103) / 100000
  let lessThan := fun k : Int =>
    if 0 ≤ k then decide (quanta < scale * Nat.pow 10 k.toNat)
    else decide (quanta * Nat.pow 10 (-k).toNat < scale)
  (([-1, 0, 1].map (estimate + ·)).find? lessThan).getD (estimate + 2)

/-- The decimal without zeros at the end of its digits. -/
def Decimal.normalize (d : Decimal) : Nat → Decimal
  | 0 => d
  | fuel + 1 =>
    if d.digits % 10 = 0 ∧ d.digits ≠ 0 then normalize ⟨d.digits / 10, d.exponent + 1⟩ fuel
    else d

/-- The shortest decimal that reads back as a positive count. Seventeen digits always do. -/
def shortest (quanta : Nat) : Decimal :=
  let k := magnitude quanta
  let found := (List.range 17).findSome? fun n => onGrid? quanta (k - (n + 1 : Nat))
  (found.getD ⟨quanta, 0⟩).normalize 400

/-- The decimal exponents that are written without an exponent mark: from `plainFrom` on and below
    `plainBelow`. -/
def plainFrom : Int := -4

/-- The first decimal exponent that is written with an exponent mark. -/
def plainBelow : Int := 16

/-- The digits with a point in them, or with a mark and a signed exponent of two digits or more. -/
def Decimal.text (d : Decimal) : Text :=
  let digits := Text.ofNat d.digits
  let count : Int := digits.length
  let point := count + d.exponent
  let leading := point - 1
  if plainFrom ≤ leading ∧ leading < plainBelow then
    if point ≤ 0 then '0' :: '.' :: List.replicate (-point).toNat '0' ++ digits
    else if count ≤ point then
      digits ++ List.replicate (point - count).toNat '0' ++ ['.', '0']
    else digits.take point.toNat ++ '.' :: digits.drop point.toNat
  else
    let mantissa := match digits with
      | first :: second :: rest => first :: '.' :: second :: rest
      | short => short
    let sign := if leading < 0 then '-' else '+'
    mantissa ++ 'e' :: sign :: Text.padStart 2 '0' (Text.ofNat leading.natAbs)

/-- The text of a number. -/
def text : Binary64 → Text
  | .nan => ['n', 'a', 'n']
  | .infinite negative => if negative then ['-', 'i', 'n', 'f'] else ['i', 'n', 'f']
  | .finite negative quanta _ =>
    let body := if quanta = 0 then ['0', '.', '0'] else (shortest quanta).text
    if negative then '-' :: body else body

end RecordFilter.Binary64
