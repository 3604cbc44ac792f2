import RecordFilter.Command.Task
import RecordFilter.Filter.Description

/-!
The command that shows the clauses of a filter.

It warns of fields that are not in the table of aliases, and of comparisons by order that would not
compare what the field holds.
-/

namespace RecordFilter.Command

/-- The end of a warning of a comparison of texts, if a clause deserves one. -/
def orderWarning? (e : Expression) : Option Text :=
  if !e.operator.isOrdered then none
  else if Field.isMemory e.field && e.kind ≠ .integer && e.kind ≠ .memory then
    some ("' compares ".toList ++ e.field ++ " as text; use a size such as 4G.".toList)
  else if Field.isDuration e.field && e.kind ≠ .clusterDuration && e.kind ≠ .duration then
    some ("' compares ".toList ++ e.field ++
      " as text; use a duration such as 2:00:00 or 1h30m.".toList)
  else if Field.isDate e.field then
    some "' compares dates as text; 'match --since' understands date ranges.".toList
  else none

/-- The warning of a field that is not in the table of aliases. -/
def unknownField (field : Text) : Text :=
  "Field '".toList ++ field ++ "' is not a known alias; records need that exact key.".toList

/-- Leaves the warnings that a clause deserves. -/
def warnOf (s : Surroundings) (aliases : AliasTable) (e : Expression) : Task Unit := do
  if !(aliases.entries.any fun (_, key) => key = e.field) then Task.warn (unknownField e.field)
  match orderWarning? e with
  | none => pure ()
  | some tail =>
    let text ← Task.ofExcept (fun fault => s.unexpected fault.cause) e.text
    Task.warn ('\'' :: text ++ tail)

/-- Shows the clauses of a filter. -/
def parseTask (s : Surroundings) (configPath : Option Text) (text : Text) (isAny : Bool) :
    Task Outcome := do
  let aliases ← readAliases s configPath
  let filter ← readFilter aliases text (if isAny then Filter.orLogic else Filter.andLogic)
  filter.expressions.forM (warnOf s aliases)
  let described ← Task.ofExcept (fun fault => s.unexpected fault.cause) filter.described
  return { data := .dict [("filter".toList, described)] }

end RecordFilter.Command
