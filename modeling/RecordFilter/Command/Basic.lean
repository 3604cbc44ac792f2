import RecordFilter.Text.Basic

/-!
What can be asked for on the command line.
-/

namespace RecordFilter

/-- The form in which a report is given. -/
inductive ReportForm
  /-- Tables for a reader. -/
  | table
  /-- One line for a program. -/
  | json
  deriving DecidableEq

/-- What holds for all commands. -/
structure Mode where
  form : ReportForm := .table
  /-- Whether warnings, hints and times are left out. -/
  quiet : Bool := false
  verbosity : Nat := 0
  /-- The settings file, if one is named. -/
  configPath : Option Text := none
  /-- The file that the log is written to, if one is named. -/
  logPath : Option Text := none
  deriving DecidableEq

/-- Which records are to be found, and where. -/
structure Query where
  filter : Option Text := none
  preset : Option Text := none
  /-- Whether one clause is enough. -/
  isAny : Bool := false
  /-- A range that a date of the records has to be in. -/
  since : Option Text := none
  /-- The field of that date. -/
  dateField : Text := "SubmitTime".toList
  /-- The file with the records, or a hyphen for the input. -/
  source : Text := ['-']
  /-- Whether the exit code tells that no record was found. -/
  check : Bool := false
  deriving DecidableEq

/-- The commands. -/
inductive Command
  /-- Shows the clauses of a filter. -/
  | parse (filter : Text) (isAny : Bool)
  /-- Shows the records that a filter selects. -/
  | find (query : Query)
  /-- Shows how a text is read as a value. -/
  | coerce (text : Text)
  /-- Lists the presets of a view, from a file if one is named, and checks that they can be read. -/
  | presets (view file : Option Text)
  deriving DecidableEq

/-- The name of a command. -/
def Command.name : Command → Text
  | parse .. => "parse".toList
  | find _ => "match".toList
  | coerce _ => "coerce".toList
  | presets .. => "presets".toList

/-- What a command line asks for. -/
inductive Request
  | help
  | version
  | run (mode : Mode) (command : Command)
  deriving DecidableEq

end RecordFilter
