import RecordFilter.Command.Basic
import RecordFilter.Command.Records
import RecordFilter.Filter.Dates
import RecordFilter.Filter.Evaluation

/-!
The command that shows the records that a filter selects.

The filter is given as a text or by the name of a preset. A range of dates can be asked for
besides, or alone.
-/

namespace RecordFilter

/-- The wording of what is wrong with the pattern of a condition, if the pattern is malformed. -/
def Expression.malformedPattern? (e : Expression) : Option Text :=
  match e.value.display with
  | .error _ => none
  | .ok text =>
    match Pattern.read text with
    | .error (.malformed message place) => some (Pattern.describe text message place)
    | _ => none

/-- The log line of a condition with a malformed pattern. -/
def Expression.patternLine? (e : Expression) : Option LogLine := do
  let wrong ← if e.operator = .pattern then e.malformedPattern? else none
  let shown ← e.value.denoted.toOption
  return ⟨.debug, "jobfilter.evaluator".toList,
    "Ignoring invalid regex ".toList ++ shown ++ ": ".toList ++ wrong⟩

/-- The log lines of the malformed patterns of a filter, up to the first condition whose pattern
    cannot be read at all. -/
def Filter.patternLines (f : Filter) : List LogLine :=
  (f.expressions.takeWhile fun e => e.compile.isOk).filterMap Expression.patternLine?

namespace Command

/-- The query names a filter and a preset. -/
def bothFilters : Failure :=
  .usage "Give either a FILTER argument or --preset NAME, not both.".toList

/-- The query asks for nothing. -/
def noCondition : Failure :=
  .usage "Give a FILTER argument, --preset NAME or --since RANGE.".toList

/-- The failure of a range of dates that cannot be read. -/
def rangeFailure (s : Surroundings) (e : DateError) : Failure :=
  if e.isAboutText then
    .usage ("Invalid --since value: ".toList ++ e.message)
      (some "Try 'today', 'last 24h', 'last 7 days' or 2024-01-01..2024-01-31.".toList)
  else s.unexpected (if e = .tooManyDigits then .tooManyDigits else .noSuchYear)

/-- The range of dates of a query. -/
def rangeOf (s : Surroundings) (q : Query) : Task (Option DateRange) :=
  match q.since with
  | none => pure none
  | some text => do
    let range ← Task.ofExcept (rangeFailure s) (DateRange.read s.now (some q.dateField) text)
    if !Field.isDate q.dateField then
      Task.warn ("Field '".toList ++ q.dateField ++
        "' does not look like a timestamp field.".toList)
    return some range

/-- The failure of a preset that is not there. -/
def unknownPreset (name : Text) : Failure :=
  .usage ("Unknown preset '".toList ++ name ++ "'.".toList)
    (some "Run 'jobfilter presets' to list them.".toList)

/-- The filter of a query. -/
def filterOf (s : Surroundings) (aliases : AliasTable) (q : Query) : Task Filter := do
  let filter ← match q.preset with
    | none => readFilter aliases (q.filter.getD []) Filter.andLogic
    | some name =>
      match Preset.find? name Preset.globalView Preset.catalogue with
      | none => throw (unknownPreset name)
      | some preset => readPreset aliases (some s.environment) preset
  return if q.isAny then filter.withLogic Filter.orLogic else filter

/-- The records that a filter selects and that have a date in a range, if there is one. -/
def selectRecords (now : Moment) (filter : Filter) (range : Option DateRange)
    (records : List Record) : Except Fault (List Record) := do
  let selected ← Filter.select (some filter) id records
  return match range with
    | none => selected
    | some range => selected.filter (range.selects now)

/-- The log line of a search. -/
def foundLine (found total : Nat) (filter : Text) : LogLine :=
  ⟨.info, "jobfilter.cli.commands.match_cmd".toList,
    Text.ofNat found ++ " of ".toList ++ Text.ofNat total ++ " record(s) matched ".toList ++
      Text.quoted filter⟩

/-- The data of a search. -/
def foundData (found : List Record) (total : Nat) : Value :=
  .dict [("count".toList, .integer found.length), ("total".toList, .integer total),
    ("records".toList, .list (found.map .dict))]

/-- Shows the records that a query asks for. -/
def findTask (s : Surroundings) (configPath : Option Text) (q : Query) : Task Outcome := do
  if q.filter.isSome && q.preset.isSome then throw bothFilters
  if q.filter.isNone && q.preset.isNone && q.since.isNone then throw noCondition
  let range ← rangeOf s q
  let aliases ← readAliases s configPath
  let filter ← filterOf s aliases q
  let records ← Task.ofExcept (Records.failure s q.source) (Records.readSource s q.source)
  Task.log filter.patternLines
  let found ← Task.ofExcept (fun fault => s.unexpected fault.cause)
    (selectRecords s.now filter range records)
  let text ← Task.ofExcept (fun fault => s.unexpected fault.cause) filter.text
  Task.log [foundLine found.length records.length text]
  if filter.isEmpty && range.isNone then Task.warn "Empty filter: every record matches.".toList
  return { data := foundData found records.length,
           exit := if q.check && found.isEmpty then 1 else 0 }

end Command

end RecordFilter
