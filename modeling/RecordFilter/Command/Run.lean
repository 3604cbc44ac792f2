import RecordFilter.Command.Coerce
import RecordFilter.Command.Find
import RecordFilter.Command.Line
import RecordFilter.Command.Parse
import RecordFilter.Command.Presets
import RecordFilter.Report.View

/-!
Running a command line: one report for each run, on the standard output or as tables and messages.

Log lines that the mode asks for come first on the error output. A report that cannot be shown
makes the run fail, and the failure is reported instead.
-/

namespace RecordFilter

/-- What a run leaves behind. -/
structure Printed where
  exit : Int := 0
  output : Text := []
  errors : Text := []
  /-- The log file with its lines, if one is named. -/
  logFile : Option (Text × List LogLine) := none

/-- How a command line comes to an end. -/
inductive Ending
  | printed (printed : Printed)
  /-- The command line itself is wrong. -/
  | misused (fault : UsageFault)
  /-- There is no report at all, because the settings file cannot be told or the report of a
      failure cannot be shown. -/
  | broken (cause : Cause)

namespace Command

/-- What a command does. -/
def task (s : Surroundings) (configPath : Option Text) : Command → Task Outcome
  | parse filter isAny => parseTask s configPath filter isAny
  | find query => findTask s configPath query
  | coerce text => coerceTask s text
  | presets view file => presetsTask s configPath view file

/-- The log line of a command that has failed. -/
def failedLine (name : Text) : LogLine :=
  ⟨.debug, "jobfilter.cli.runner".toList,
    "Command ".toList ++ Text.quoted name ++ " failed".toList⟩

/-- The report of a result. -/
def successReport (name : Text) (configPath : Option Text) (warnings : List Text)
    (outcome : Outcome) : Report :=
  { command := name, data := outcome.data,
    warnings := if outcome.warnings.isEmpty then warnings else outcome.warnings, configPath,
    columns := outcome.columns }

/-- The report of a failure. -/
def failureReport (name : Text) (configPath : Option Text) (warnings : List Text)
    (failure : Failure) : Report :=
  { command := name, ok := false, warnings, configPath, error := some failure.info }

end Command

/-- What a report puts on the two outputs. -/
def Report.emit (screen : Nat) (mode : Mode) (r : Report) : Except ViewFault (Text × Text) :=
  match mode.form with
  | .json =>
    match r.writeFault? with
    | some fault => .error (.value fault)
    | none => .ok (r.line, [])
  | .table => do
    let (output, errors) ← r.shown screen mode.quiet mode.verbosity
    return (output, errors ++ r.warningText screen mode.quiet)

/-- The cause that the lack of a view is. -/
def ViewFault.cause : ViewFault → Cause
  | .value fault => fault.cause
  | _ => .wrongHeading

/-- Whether the error output shows a line of the log. -/
def LogLine.isShown (verbosity : Nat) (line : LogLine) : Bool :=
  match line.level with
  | .info => 0 < verbosity
  | .debug => 1 < verbosity

/-- A line of the log on a screen: the level, and the message beside it. -/
def LogLine.shown (screen : Nat) (line : LogLine) : Text :=
  let lines := Screen.wrap .fold (screen - 9) (Screen.withoutControls line.message)
  let heads := Text.padEnd 9 ' ' line.level.name :: List.replicate lines.length
    (List.replicate 9 ' ')
  (heads.zipWith (fun head line => head ++ line ++ ['\n']) lines).flatten

/-- A line of the log as a log file has it, without the time. -/
def LogLine.text (line : LogLine) : Text :=
  line.level.name ++ ' ' :: line.origin ++ ": ".toList ++ line.message

/-- A line of the log in a log file, with the time at which it was written. -/
def LogLine.stamped (now : Moment) (line : LogLine) : Text :=
  now.date.text ++ ' ' :: now.clockText ++ ',' :: now.microText.take 3 ++ ' ' :: line.text ++
    ['\n']

/-- The lines of the log that the error output shows. -/
def logText (screen verbosity : Nat) (log : List LogLine) : Text :=
  (log.filter (·.isShown verbosity)).flatMap (·.shown screen)

namespace Command

/-- What a failed run prints. There is no further report if that of the failure cannot be shown. -/
def printFailure (s : Surroundings) (mode : Mode) (configPath : Option Text) (name : Text)
    (notes : Notes) (failure : Failure) : Except Cause Printed :=
  let log := notes.log ++ [failedLine name]
  match (failureReport name configPath notes.warnings failure).emit s.screen mode with
  | .error fault => .error fault.cause
  | .ok (output, errors) =>
    .ok { exit := failure.exitCode, output,
          errors := logText s.screen mode.verbosity log ++ errors,
          logFile := mode.logPath.map (·, log) }

/-- What a run prints, given what its task has come to. -/
def printed (s : Surroundings) (mode : Mode) (configPath : Option Text) (name : Text)
    (result : Except Failure Outcome) (notes : Notes) : Except Cause Printed :=
  match result with
  | .error failure => printFailure s mode configPath name notes failure
  | .ok outcome =>
    match (successReport name configPath notes.warnings outcome).emit s.screen mode with
    | .error fault => printFailure s mode configPath name notes (s.unexpected fault.cause)
    | .ok (output, errors) =>
      .ok { exit := outcome.exit, output,
            errors := logText s.screen mode.verbosity notes.log ++ errors,
            logFile := mode.logPath.map (·, notes.log) }

/-- The settings file of a run. -/
def settingsPath (s : Surroundings) (mode : Mode) : Except Cause (Option Text) :=
  match mode.configPath with
  | some path => .ok (some path)
  | none => Settings.defaultPath s.environment s.homeOf

/-- Runs a task under the name of a command. The task is told the settings file. -/
def runTask (s : Surroundings) (mode : Mode) (name : Text) (task : Option Text → Task Outcome) :
    Except Cause Printed := do
  let configPath ← settingsPath s mode
  let (result, notes) := (task configPath).perform
  printed s mode configPath name result notes

/-- Runs a command. -/
def run (s : Surroundings) (mode : Mode) (command : Command) : Except Cause Printed :=
  runTask s mode command.name (command.task s)

end Command

namespace CommandLine

/-- The help page. -/
def helpText : Text :=
  ("Usage: jobfilter [OPTIONS] COMMAND [ARGS]...\n\n" ++
    "Parse and evaluate job / node filter expressions.\n\n" ++
    "Commands: parse, match, coerce, presets\n").toList

/-- The name and version of the program. -/
def versionText : Text :=
  "jobfilter, version 0.3.0\n".toList

/-- Runs a command line. -/
def run (s : Surroundings) (args : List Text) : Ending :=
  match read s.files args with
  | .error fault => .misused fault
  | .ok .help => .printed { output := helpText }
  | .ok .version => .printed { output := versionText }
  | .ok (.run mode command) =>
    match command.run s mode with
    | .error cause => .broken cause
    | .ok printed => .printed printed

end CommandLine

end RecordFilter
