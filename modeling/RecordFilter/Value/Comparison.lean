import RecordFilter.Value.Display

/-!
How two values are ordered.

A value may be read as a memory size, a duration or a number. Two values are ordered on the first
of these scales on which both can be read, and by their texts if there is none (`compare`).
-/

namespace RecordFilter

namespace Value

/-- A value as a number of bytes. Truth values have none, nor has a value without a text, and
    integers are their own. -/
def byteCount? : Value → Option Int
  | boolean _ => none
  | integer i => some i
  | size n => some n
  | value => (value.display.toOption).bind fun t => (Quantity.readSize t).toOption

/-- A value as a duration, in clock form first and in compact form second. -/
def duration? : Value → Except Fault (Option Duration)
  | duration d => .ok (some d)
  | value => do
    let t ← value.display
    return (Duration.readCluster t).toOption.or (Duration.readCompact t).toOption

/-- An integer as a floating point number. -/
def floatOf (i : Int) : Except Fault Binary64 :=
  (Binary64.ofInt? i).elim (.error .numberTooLarge) .ok

/-- A value as a floating point number. Only integers, floating point numbers and texts that read as
    one have it. -/
def number? : Value → Except Fault (Option Binary64)
  | integer i => some <$> floatOf i
  | size n => some <$> floatOf n
  | float x => .ok (some x)
  | text t => .ok (Quantity.readFloat t).toOption
  | _ => .ok none

end Value

/-- Two values on a common scale. -/
inductive Comparable
  | sizes (a b : Int)
  | durations (a b : Duration)
  | numbers (a b : Binary64)
  | texts (a b : Text)

namespace Comparable

/-- Whether the first value is less than the second. -/
def less : Comparable → Bool
  | sizes a b => a < b
  | durations a b => a.micros < b.micros
  | numbers a b => a.less b
  | texts a b => Text.before a b

/-- The values in the other order. -/
def swap : Comparable → Comparable
  | sizes a b => sizes b a
  | durations a b => durations b a
  | numbers a b => numbers b a
  | texts a b => texts b a

/-- Whether the first value is greater than the second. -/
def greater (c : Comparable) : Bool := c.swap.less

end Comparable

namespace Value

/-- Two values on the scale of memory sizes. -/
def sizes? (a b : Value) : Option Comparable := do
  return .sizes (← a.byteCount?) (← b.byteCount?)

/-- Two values on the scale of durations. The second is not read if the first has none. -/
def durations? (a b : Value) : Except Fault (Option Comparable) := do
  match ← a.duration? with
  | none => return none
  | some x => return (← b.duration?).map (.durations x)

/-- Two values on the scale of numbers. The second is not read if the first has none. -/
def numbers? (a b : Value) : Except Fault (Option Comparable) := do
  match ← a.number? with
  | none => return none
  | some x => return (← b.number?).map (.numbers x)

/-- Two values on the first scale that both have. -/
def compare (a b : Value) : Except Fault Comparable := do
  if let some c := sizes? a b then return c
  if let some c ← durations? a b then return c
  if let some c ← numbers? a b then return c
  return .texts (← a.display) (← b.display)

end Value

end RecordFilter
