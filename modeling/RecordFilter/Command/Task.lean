import RecordFilter.Calendar.Moment
import RecordFilter.Preset.Catalogue
import RecordFilter.Preset.Validation
import RecordFilter.Report.Failure
import RecordFilter.Settings.Basic

/-!
Tasks: what a command does, with the warnings and log lines that it leaves on the way.

A task that fails keeps what it has left until then. All that it needs to know of the world is
given to it beforehand as its surroundings.
-/

namespace RecordFilter

/-- The world around a run. -/
structure Surroundings where
  /-- The time of the run. -/
  now : Moment
  environment : Environment
  /-- The home directories of users. -/
  homeOf : Text → Option Text
  files : Files
  /-- What is on the standard input. -/
  input : ByteArray
  /-- The width of the screen. -/
  screen : Nat
  /-- The words for causes in messages. -/
  word : Cause → Text

/-- What a task leaves besides its result, in order. -/
structure Notes where
  warnings : List Text := []
  log : List LogLine := []

/-- A task. -/
abbrev Task := ExceptT Failure (StateM Notes)

/-- The result of a command. -/
structure Outcome where
  data : Value
  /-- Warnings that are reported instead of those that the task has left. -/
  warnings : List Text := []
  columns : Option (List Text) := none
  exit : Int := 0

/-- The cause that a fault in a comparison is. -/
def Fault.cause : Fault → Cause
  | tooManyDigits => .tooManyDigits
  | numberTooLarge => .numberTooLarge
  | repeatTooLarge => .repeatTooLarge
  | scriptConflict => .scriptConflict
  | crossedGroup => .crossedGroup
  | nestedTooDeeply => .nestedTooDeeply

/-- The cause that the lack of a text is. -/
def Expression.TextFault.cause : Expression.TextFault → Cause
  | value fault => fault.cause
  | itemNotText => .itemNotText

namespace Surroundings

/-- A failure of the layers below. -/
def unexpected (s : Surroundings) (cause : Cause) : Failure :=
  .unexpected [] (s.word cause)

/-- The failure of a file that cannot be used. -/
def fileFailure (s : Surroundings) : FileFault → Failure
  | .refused wording => .settings (wording.text s.word)
  | .broken cause => s.unexpected cause

end Surroundings

namespace Task

/-- Leaves a warning. -/
def warn (message : Text) : Task Unit :=
  modify fun notes => { notes with warnings := notes.warnings ++ [message] }

/-- Leaves log lines. -/
def log (lines : List LogLine) : Task Unit :=
  modify fun notes => { notes with log := notes.log ++ lines }

/-- A result, or its fault as a failure. -/
def ofExcept {ε α : Type} (failure : ε → Failure) : Except ε α → Task α
  | .ok a => pure a
  | .error e => throw (failure e)

/-- Carries a task out. -/
def perform {α : Type} (task : Task α) : Except Failure α × Notes :=
  (ExceptT.run task).run {}

end Task

namespace Command

/-- The log line of a filter that has been read. -/
def parsedLine (text : Text) (filter : Filter) : LogLine :=
  ⟨.debug, "jobfilter.parser".toList,
    "Parsed filter ".toList ++ Text.quoted text ++ " into ".toList ++
      Text.ofNat filter.expressions.length ++ " expression(s)".toList⟩

/-- Reads a filter. -/
def readFilter (aliases : AliasTable) (text logic : Text) : Task Filter := do
  let filter ← Task.ofExcept .filter (Filter.parse aliases text logic)
  Task.log [parsedLine text filter]
  return filter

/-- Reads the filter of a preset. -/
def readPreset (aliases : AliasTable) (environment : Option Environment) (preset : Preset) :
    Task Filter := do
  let filter ← Task.ofExcept .filter (preset.toFilter aliases environment)
  Task.log [parsedLine (preset.filterText environment) filter]
  return filter

/-- Reads the aliases of the settings. -/
def readAliases (s : Surroundings) (configPath : Option Text) : Task AliasTable := do
  let (aliases, lines) ← Task.ofExcept s.fileFailure (Settings.load s.files configPath)
  Task.log lines
  return aliases

end Command

end RecordFilter
