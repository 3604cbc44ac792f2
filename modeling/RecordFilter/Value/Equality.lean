import RecordFilter.Value.Basic

/-!
When two values are the same.

Truth values, integers, sizes and floating point numbers are numbers, and are the same if they have
one value; an undefined number is not the same as itself. Tuples and lists are the same if their
items are, in order, and dictionaries if their entries are, in any order. All else is the same only
if it is equal and of one kind.
-/

namespace RecordFilter

namespace Value

/-- The value of a number as a floating point number that is infinite, or as a count of quanta. -/
inductive Magnitude
  | finite (quanta : Int)
  | infinite (negative : Bool)
  deriving DecidableEq

/-- The value of a number. -/
def magnitude? : Value → Option Magnitude
  | boolean b => some (.finite (if b then Binary64.scale else 0))
  | integer i => some (.finite (i * Binary64.scale))
  | size n => some (.finite (n * Binary64.scale))
  | float (.infinite negative) => some (.infinite negative)
  | float x => x.quanta?.map .finite
  | _ => none

mutual

/-- Whether two values are the same. -/
def same : Value → Value → Bool
  | null, null => true
  | duration a, duration b => a = b
  | date a, date b => a = b
  | moment a, moment b => a = b
  | text a, text b => a = b
  | tuple a, tuple b => sameAll a b
  | list a, list b => sameAll a b
  | dict a, dict b => a.length == b.length && sameEntries a b
  | a, b =>
    match a.magnitude?, b.magnitude? with
    | some x, some y => x = y
    | _, _ => false

/-- Whether two rows of values are the same. -/
def sameAll : List Value → List Value → Bool
  | [], [] => true
  | a :: as, b :: bs => same a b && sameAll as bs
  | _, _ => false

/-- Whether the values of entries are the same as those under the same keys of a dictionary. -/
def sameEntries : List (Text × Value) → List (Text × Value) → Bool
  | [], _ => true
  | (key, a) :: entries, other =>
    (match other.lookup key with
      | some b => same a b
      | none => false) && sameEntries entries other

end

mutual

/-- Whether a value can be a member of a set: lists and dictionaries cannot. -/
def isHashable : Value → Bool
  | list _ | dict _ => false
  | tuple items => areHashable items
  | _ => true

/-- Whether all values of a row can be members of a set. -/
def areHashable : List Value → Bool
  | [] => true
  | item :: items => isHashable item && areHashable items

end

end Value

end RecordFilter
