import RecordFilter.Filter.Basic

/-!
Filters as plain data, for reports.
-/

namespace RecordFilter

/-- A value in a form that a data file can hold. Sizes become integers and tuples lists; infinite
    and undefined numbers, durations and all else become texts. -/
def Value.plain : Value → Except Fault Value
  | .tuple items => .ok (.list items)
  | .boolean b => .ok (.boolean b)
  | .text t => .ok (.text t)
  | .integer i => .ok (.integer i)
  | .size n => .ok (.integer n)
  | .float x => .ok (if x.isFinite then .float x else .text (Value.floatText x))
  | value => value.display.map .text

namespace Expression

/-- The parts of an expression by name. -/
def described (e : Expression) : Except Fault Value := do
  return .dict [("field".toList, .text e.field), ("operator".toList, .text e.operator.text),
    ("value".toList, ← e.value.plain), ("kind".toList, .text e.kind.name)]

end Expression

namespace Filter

/-- The parts of a filter by name. -/
def described (f : Filter) : Except Fault Value := do
  return .dict [("name".toList, .ofText? f.name), ("description".toList, .ofText? f.description),
    ("logic".toList, .text f.logic),
    ("expressions".toList, .list (← f.expressions.mapM Expression.described))]

end Filter

end RecordFilter
