import RecordFilter.Clause.Expression

/-!
Hashes of values and of expressions, by which sets and dictionaries find their members.

Texts, times and rows are hashed by functions that a run of the program is given (`Hashing`). A
number is hashed by what it is worth, modulo a prime, and so in the same way as a truth value, an
integer or a floating point number.
-/

namespace RecordFilter

/-- The functions that a run hashes all else than numbers with. -/
structure Hashing where
  null : Int
  text : Text → Int
  duration : Duration → Int
  date : Date → Int
  moment : Moment → Int
  operator : Operator → Int
  kind : Kind → Int
  /-- The hash of a row by the hashes of its items. -/
  row : List Int → Int

namespace Value

/-- The prime that numbers are hashed by. -/
def hashPrime : Nat := Nat.pow 2 61 - 1

/-- The number of quanta in one has this inverse modulo the prime. -/
def scaleInverse : Nat := Nat.pow 2 24

/-- The hash with a sign and an absolute value. The hash that would be minus one is reserved. -/
def signedHash (negative : Bool) (size : Nat) : Int :=
  let hash : Int := if negative then -size else size
  if hash = -1 then -2 else hash

/-- The hash of a number. -/
def Magnitude.hash : Magnitude → Int
  | .finite quanta => signedHash (quanta < 0) (quanta.natAbs * scaleInverse % hashPrime)
  | .infinite negative => signedHash negative 314159

mutual

/-- The hash of a value. Lists and dictionaries have none, and an undefined number has another one
    each time that it is computed. -/
def hash? (h : Hashing) : Value → Option Int
  | null => some h.null
  | duration d => some (h.duration d)
  | date d => some (h.date d)
  | moment m => some (h.moment m)
  | text t => some (h.text t)
  | tuple items => (hashAll? h items).map h.row
  | list _ | dict _ => none
  | number => number.magnitude?.map Magnitude.hash

/-- The hashes of values in a row. -/
def hashAll? (h : Hashing) : List Value → Option (List Int)
  | [] => some []
  | item :: items => do return (← hash? h item) :: (← hashAll? h items)

end

end Value

/-- The hash of an expression, by the same parts that expressions are compared by. -/
def Expression.hash? (h : Hashing) (e : Expression) : Option Int :=
  (e.key.hash? h).map fun value =>
    h.row [h.text e.field, h.operator e.operator, value, h.kind e.kind]

end RecordFilter
