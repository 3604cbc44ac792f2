import RecordFilter.Number.Rounding

/-!
Floating point numbers of 64 bits, computed exactly.

Every finite number of the format is a whole number of quanta, a quantum being `2 ^ -1074`. So a
finite number is a sign and a count of quanta, and an operation is exact arithmetic on counts
followed by one rounding (`roundQuanta`): to the nearest count with at most 53 significant bits,
ties to the even one. Counts from `2 ^ 2098` on are beyond the range and become infinite.
-/

namespace RecordFilter

namespace Binary64

/-- The number of binary places below the point: one is `2 ^ 1074` quanta. -/
def scaleBits : Nat := 1074

/-- The number of quanta in one. -/
def scale : Nat := Nat.pow 2 scaleBits

/-- The number of binary digits of the greatest count in range. -/
def limitBits : Nat := 2098

/-- The number of quanta in the least power of two beyond the range. -/
def limit : Nat := Nat.pow 2 limitBits

/-- The binary place of the last of the 53 significant bits of a count. -/
def lastPlace (quanta : Nat) : Nat := quanta.log2 - 52

/-- The counts that the format holds: in range, and without a bit below their last place. -/
def Representable (quanta : Nat) : Prop :=
  quanta < limit ∧ quanta % Nat.pow 2 (lastPlace quanta) = 0

instance (quanta : Nat) : Decidable (Representable quanta) :=
  inferInstanceAs (Decidable (_ ∧ _))

/-- The count nearest to `num / den` quanta among those with 53 significant bits. -/
def roundQuanta (num den : Nat) : Nat :=
  let place := lastPlace (num / den)
  roundHalfEven num (den * Nat.pow 2 place) * Nat.pow 2 place

end Binary64

/-- A floating point number of 64 bits. -/
inductive Binary64
  | finite (negative : Bool) (quanta : Nat) (representable : Binary64.Representable quanta)
  | infinite (negative : Bool)
  | nan
  deriving DecidableEq

namespace Binary64

/-- The number with the sign and the nearest count of quanta to `num / den`. -/
def rounded (negative : Bool) (num den : Nat) : Binary64 :=
  let quanta := roundQuanta num den
  if h : Representable quanta then .finite negative quanta h else .infinite negative

theorem two_pow_pos (n : Nat) : 0 < Nat.pow 2 n :=
  Nat.two_pow_pos n

theorem limit_pos : 0 < limit := by
  unfold limit
  exact two_pow_pos limitBits

theorem representable_zero : Representable 0 :=
  ⟨limit_pos, Nat.zero_mod _⟩

/-- The zero with a sign. -/
def zero (negative : Bool) : Binary64 :=
  .finite negative 0 representable_zero

instance : Inhabited Binary64 := ⟨zero false⟩

/-- Whether the number is neither infinite nor undefined. -/
def isFinite : Binary64 → Bool
  | .finite .. => true
  | _ => false

/-- Whether the number is undefined. -/
def isNaN : Binary64 → Bool
  | .nan => true
  | _ => false

/-- The signed count of quanta of a finite number. -/
def quanta? : Binary64 → Option Int
  | .finite negative quanta _ => some (if negative then -quanta else quanta)
  | _ => none

/-- The number, unless it is infinite. -/
def inRange? : Binary64 → Option Binary64
  | .infinite _ => none
  | x => some x

/-- The number nearest to an integer, if that is in range. -/
def ofInt? (i : Int) : Option Binary64 :=
  (rounded (i < 0) (i.natAbs * scale) 1).inRange?

/-- The number nearest to the quotient of two naturals. -/
def ofRatio (num den : Nat) : Binary64 :=
  rounded false (num * scale) den

/-- The number nearest to `digits * 10 ^ exponent`. Far beyond either end of the range the power is
    not computed. -/
def ofDecimal (negative : Bool) (digits : Nat) (exponent : Int) : Binary64 :=
  if digits = 0 then zero negative
  else if 400 < exponent then .infinite negative
  else if exponent + digits.log2 < -1200 then zero negative
  else if 0 ≤ exponent then rounded negative (digits * Nat.pow 10 exponent.toNat * scale) 1
  else rounded negative (digits * scale) (Nat.pow 10 (-exponent).toNat)

/-- The product, rounded. -/
def mul : Binary64 → Binary64 → Binary64
  | .finite s a _, .finite t b _ => rounded (s != t) (a * b) scale
  | .infinite s, .infinite t => .infinite (s != t)
  | .infinite s, .finite t b _ => if b = 0 then .nan else .infinite (s != t)
  | .finite s a _, .infinite t => if a = 0 then .nan else .infinite (s != t)
  | _, _ => .nan

/-- The quotient, rounded; a quotient by zero is infinite. -/
def div : Binary64 → Binary64 → Binary64
  | .finite s a _, .finite t b _ =>
    if b = 0 then if a = 0 then .nan else .infinite (s != t)
    else rounded (s != t) (a * scale) b
  | .infinite s, .finite t _ _ => .infinite (s != t)
  | .finite s _ _, .infinite t => zero (s != t)
  | _, _ => .nan

/-- The sum, rounded. A sum of zero is negative only if both terms are. -/
def add : Binary64 → Binary64 → Binary64
  | .finite s a _, .finite t b _ =>
    if s = t then rounded s (a + b) 1
    else if a = b then zero false
    else if b < a then rounded s (a - b) 1
    else rounded t (b - a) 1
  | .infinite s, .infinite t => if s = t then .infinite s else .nan
  | .infinite s, .finite .. => .infinite s
  | .finite .., .infinite t => .infinite t
  | _, _ => .nan

/-- The number with the other sign. -/
def neg : Binary64 → Binary64
  | .finite s a h => .finite (!s) a h
  | .infinite s => .infinite (!s)
  | .nan => .nan

/-- Whether the first number is less than the second; an undefined number is not. -/
def less : Binary64 → Binary64 → Bool
  | .finite s a _, .finite t b _ =>
    (if s then -(a : Int) else a) < (if t then -(b : Int) else b)
  | .infinite s, .infinite t => s && !t
  | .infinite s, .finite .. => s
  | .finite .., .infinite t => !t
  | _, _ => false

/-- Whether two numbers have one value: the zeros do, and an undefined number has none. -/
def same : Binary64 → Binary64 → Bool
  | .finite s a _, .finite t b _ => a = b && (s = t || a = 0)
  | .infinite s, .infinite t => s = t
  | _, _ => false

/-- The whole number of a finite number without a fraction. -/
def toInt? : Binary64 → Option Int
  | .finite s a _ =>
    if a % scale = 0 then some (if s then -(a / scale : Nat) else (a / scale : Nat)) else none
  | _ => none

/-- A finite number without its fraction. -/
def truncate? : Binary64 → Option Int
  | .finite s a _ => some (if s then -(a / scale : Nat) else (a / scale : Nat))
  | _ => none

/-- The nearest integer to a finite number, of two equally near ones the even one. -/
def nearestInt? : Binary64 → Option Int
  | .finite s a _ =>
    let n := roundHalfEven a scale
    some (if s then -n else n)
  | _ => none

end Binary64

end RecordFilter
