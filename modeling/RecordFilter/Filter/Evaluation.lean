import RecordFilter.Filter.Basic
import RecordFilter.Pattern.Matching
import RecordFilter.Value.Comparison

/-!
Which records a filter selects.

A record without the field of a condition does not meet it, and a pattern that is malformed is met
by nothing. A filter can be used as it stands or after its patterns have been read
(`Filter.compile`), with the same results.
-/

namespace RecordFilter

/-- An answer, unless a comparison cannot be made. -/
abbrev Answer := Except Fault Bool

namespace Operator

/-- Whether two values have one text. -/
def isEqual (a b : Value) : Answer := do
  return (← a.display) = (← b.display)

/-- Whether the text of the second value occurs in that of the first, without regard to case. -/
def includes (a b : Value) : Answer := do
  let wanted := Text.lower (← b.display)
  return Text.occursIn wanted (Text.lower (← a.display))

/-- Whether the first value is greater. -/
def isGreater (a b : Value) : Answer :=
  (a.compare b).map Comparable.greater

/-- Whether the first value is less. -/
def isLess (a b : Value) : Answer :=
  (a.compare b).map Comparable.less

/-- The answer, or that to a second question if the first is no. -/
def orElse (a : Answer) (b : Answer) : Answer := do
  if ← a then return true else b

/-- The opposite answer. -/
def negate (a : Answer) : Answer :=
  a.map (!·)

/-- The pattern that a value stands for. There is none if its text is malformed. -/
def patternOf (value : Value) : Except Fault (Option Pattern) := do
  match Pattern.read (← value.display) with
  | .ok p => return some p
  | .error (.malformed ..) => return none
  | .error .repeatTooLarge => throw .repeatTooLarge
  | .error .tooManyDigits => throw .tooManyDigits
  | .error .scriptConflict => throw .scriptConflict
  | .error .nestedTooDeeply => throw .nestedTooDeeply

/-- Whether a pattern occurs in the text of a value. -/
def found (p : Pattern) (a : Value) : Answer := do
  match p.search (← a.display) with
  | .nothing => return false
  | .occurrence => return true
  | .crossedGroup => throw .crossedGroup

/-- Whether the pattern of the second value occurs in the text of the first. -/
def fits (a b : Value) : Answer := do
  match ← patternOf b with
  | none => return false
  | some p => found p a

/-- Whether the text of the first value is in the list of texts that is the second. -/
def isMember (a b : Value) : Answer :=
  match b.texts? with
  | none => .ok false
  | some texts => a.display.map texts.contains

/-- Whether a value of a record and a value of a clause meet the operator. -/
def holds (op : Operator) (a b : Value) : Answer :=
  match op with
  | equals => isEqual a b
  | notEquals => negate (isEqual a b)
  | contains => includes a b
  | notContains => negate (includes a b)
  | greater => isGreater a b
  | less => isLess a b
  | greaterEqual => orElse (isGreater a b) (isEqual a b)
  | lessEqual => orElse (isLess a b) (isEqual a b)
  | pattern => fits a b
  | isIn => isMember a b
  | notIn => negate (isMember a b)

end Operator

namespace Expression

/-- Whether a record meets the condition. -/
def holds (e : Expression) (record : Record) : Answer :=
  match record.lookup e.field with
  | none => .ok false
  | some value => e.operator.holds value e.value

end Expression

/-- A test of records. -/
abbrev RecordTest := Record → Answer

/-- Whether one of the tests succeeds. The tests after it are not made. -/
def anyOf (record : Record) : List RecordTest → Answer
  | [] => .ok false
  | test :: tests => do if ← test record then return true else anyOf record tests

/-- Whether all tests succeed. The tests after one that fails are not made. -/
def allOf (record : Record) : List RecordTest → Answer
  | [] => .ok true
  | test :: tests => do if ← test record then allOf record tests else return false

/-- Tests combined by a logic. -/
def combine (isAny : Bool) (tests : List RecordTest) (record : Record) : Answer :=
  if isAny then anyOf record tests else allOf record tests

namespace Expression

/-- The test of the condition with its pattern read beforehand. -/
def compile (e : Expression) : Except Fault RecordTest :=
  if e.operator = .pattern then do
    match ← Operator.patternOf e.value with
    | none => return fun _ => .ok false
    | some p =>
      return fun record =>
        match record.lookup e.field with
        | none => .ok false
        | some value => Operator.found p value
  else .ok e.holds

end Expression

namespace Filter

/-- Whether the filter selects a record. A filter without conditions selects every record. -/
def holds (f : Filter) (record : Record) : Answer :=
  if f.isEmpty then .ok true else combine f.isAny (f.expressions.map Expression.holds) record

/-- The test of the filter with all its patterns read beforehand. -/
def compile (f : Filter) : Except Fault RecordTest :=
  if f.isEmpty then .ok fun _ => .ok true
  else (f.expressions.mapM Expression.compile).map (combine f.isAny)

/-- The items whose records the filter selects, in their order. Without a filter, or with one
    without conditions, all are. -/
def select {α : Type} (filter : Option Filter) (recordOf : α → Record) (items : List α) :
    Except Fault (List α) :=
  match filter with
  | none => .ok items
  | some f =>
    if f.isEmpty then .ok items
    else do
      let test ← f.compile
      items.filterM fun item => test (recordOf item)

end Filter

end RecordFilter
