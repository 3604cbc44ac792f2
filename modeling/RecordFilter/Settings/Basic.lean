import RecordFilter.Clause.Field
import RecordFilter.Files.Basic
import RecordFilter.Preset.Validation
import RecordFilter.Toml.Reader

/-!
Settings: the table of aliases, with what a settings file adds to it.

The file is named on the command line or in the environment. A file that is not there changes
nothing, and one that is there has to be right.
-/

namespace RecordFilter

/-- How much a line of the log matters. -/
inductive Level
  | debug | info
  deriving DecidableEq

/-- The name of a level. -/
def Level.name : Level → Text
  | debug => "DEBUG".toList
  | info => "INFO".toList

/-- A line of the log, with the part of the program that wrote it. -/
structure LogLine where
  level : Level
  origin : Text
  message : Text
  deriving DecidableEq

namespace Settings

/-- The variable that names the settings file. -/
def pathVariable : Text := "JOBFILTER_CONFIG".toList

/-- Where one's own home directory is. -/
def homeVariable : Text := "HOME".toList

/-- The settings file that the environment names, if it names one. -/
def defaultPath (environment : Environment) (homeOf : Text → Option Text) :
    Except Cause (Option Text) :=
  let raw := Text.trim ((environment.lookup pathVariable).getD [])
  if raw.isEmpty then .ok none
  else
    match Path.expandHome? (environment.lookup homeVariable) homeOf raw with
    | some path => .ok (some path)
    | none => .error .noHome

/-- The pairs of a table of texts, or its flaws. -/
def textPairs (place : Text) (entries : List (Text × Value)) :
    Except (List Flaw) (List (Text × Text)) :=
  let flaws := entries.filterMap fun (name, value) =>
    match value with
    | .text _ => none
    | _ => some ⟨[place, name], .notText⟩
  if flaws.isEmpty then
    .ok (entries.filterMap fun (name, value) =>
      match value with
      | .text key => some (name, key)
      | _ => none)
  else .error flaws

/-- The two names of the table of aliases, the one that wins first. -/
def aliasNames : List Text :=
  ["fieldAliases".toList, "field_aliases".toList]

/-- The table of aliases that some data holds. Data without one has the standard table. -/
def ofValue : Value → Except (List Flaw) AliasTable
  | .dict entries =>
    match aliasNames.findSome? fun name => (entries.lookup name).map (name, ·) with
    | none => .ok .standard
    | some (name, .dict aliases) =>
      (textPairs name aliases).map fun pairs => (AliasTable.ofPairs pairs).lowered
    | some (name, _) => .error [⟨[name], .notTable⟩]
  | _ => .error [⟨[], .notObject⟩]

/-- The pairs of a table of texts in a settings file. -/
def textItems? : Toml.Item → Option (List (Text × Text))
  | .table entries => entries.mapM fun
    | (name, .text key) => some (name, key)
    | _ => none
  | _ => none

/-- Whether the aliases of a settings file take the place of the standard ones. -/
def replaces? (table : Toml.Table) : Option Bool :=
  match table.lookup "replace_aliases".toList with
  | none => some false
  | some (.boolean b) => some b
  | some _ => none

/-- A line of the log about settings. -/
def logLine (message : Text) : LogLine :=
  ⟨.debug, "jobfilter.config".toList, message⟩

/-- A refusal of a settings file. -/
def refuse {α : Type} (wording : String) (path : Text) (cause : Option Cause) :
    Except FileFault α :=
  .error (.refused ⟨wording.toList ++ path, cause⟩)

/-- The aliases that the content of a settings file asks for, and how many it has itself. -/
def ofTable (path : Text) (table : Toml.Table) : Except FileFault (AliasTable × Nat) :=
  match replaces? table with
  | none => refuse "'replace_aliases' must be true or false in " path none
  | some replace =>
    match textItems? ((table.lookup "aliases".toList).getD (.table [])) with
    | none => refuse "Invalid [aliases] table in " path (some .wrongAliases)
    | some pairs =>
      let extra := (AliasTable.ofPairs pairs).lowered
      .ok (AliasTable.standard.extend extra.entries replace, extra.entries.length)

/-- Reads the settings of a file that is there. -/
def loadContent (path : Text) (content : ByteArray) :
    Except FileFault (AliasTable × List LogLine) := do
  match decode? content with
  | none => throw (.broken .notText)
  | some text =>
    match Toml.read text with
    | .error .malformed => refuse "Invalid TOML in " path (some .malformedToml)
    | .error .tooManyDigits => throw (.broken .tooManyDigits)
    | .error .nestedTooDeeply => throw (.broken .nestedTooDeeply)
    | .ok table =>
      let (aliases, count) ← ofTable path table
      return (aliases, [logLine ("Loaded ".toList ++ Text.ofNat count ++
        " field alias(es) from ".toList ++ path)])

/-- Reads the settings of a file, or those that are there without one. -/
def load (files : Files) : Option Text → Except FileFault (AliasTable × List LogLine)
  | none => .ok (.standard, [])
  | some path =>
    match files path with
    | .unreachable .nameTooLong => .error (.broken .nameTooLong)
    | .unreachable .notPermitted => .error (.broken .notPermitted)
    | .missing | .unreachable _ =>
      .ok (.standard,
        [logLine ("Config file ".toList ++ path ++ " not found; using defaults".toList)])
    | .directory => refuse "Cannot read config file " path (some .isDirectory)
    | .closed cause => refuse "Cannot read config file " path (some cause)
    | .bytes content => loadContent path content

end Settings

end RecordFilter
