import RecordFilter.Command.Task

/-!
The command that lists presets and checks that their filters can be read.
-/

namespace RecordFilter.Command

/-- The columns of the list. -/
def presetColumns : List Text :=
  ["name", "view", "filter", "clauses", "description"].map String.toList

/-- The row of a preset. A filter that cannot be read has no number of clauses. -/
def presetRow (preset : Preset) (clauses : Option Nat) : Value :=
  .dict [("name".toList, .text preset.name), ("view".toList, .text preset.view),
    ("filter".toList, .text preset.filter),
    ("clauses".toList, match clauses with
      | some n => .integer n
      | none => .null),
    ("description".toList, .text preset.description)]

/-- Checks a preset and leaves a warning if its filter cannot be read. -/
def listPreset (aliases : AliasTable) (preset : Preset) : Task Value :=
  match preset.toFilter aliases none with
  | .ok filter => do
    Task.log [parsedLine (preset.filterText none) filter]
    return presetRow preset (some filter.expressions.length)
  | .error e => do
    Task.warn ("Preset '".toList ++ preset.name ++ "' does not parse: ".toList ++ e.message)
    return presetRow preset none

/-- Lists the presets of a view. -/
def presetsTask (s : Surroundings) (configPath view file : Option Text) : Task Outcome := do
  let presets ← match file with
    | none => pure Preset.catalogue
    | some path => Task.ofExcept s.fileFailure (Preset.load s.files path)
  let presets := match view with
    | none => presets
    | some view => Preset.inView view presets
  let aliases ← readAliases s configPath
  let rows ← presets.mapM (listPreset aliases)
  return { data := .list rows, columns := some presetColumns }

end RecordFilter.Command
