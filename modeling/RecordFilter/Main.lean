import RecordFilter.Command.Run
import Std.Time.Zoned

/-!
The program. What the command line can look at is read beforehand, and what the run leaves is
written afterwards.
-/

namespace RecordFilter.Program

/-- The number of the error that reading a directory ends in. -/
def directoryError : UInt32 := 21

/-- The number of the error that links in a circle end in. It comes from opening the file, which
    negates its numbers. -/
def linksError : UInt32 := -40

/-- What is found at a path that may not be read. Where the path itself can be followed to its end,
    something is there. -/
def lockedAt (path : Text) : IO FileState := do
  match ← (IO.FS.realPath (String.ofList path)).toBaseIO with
  | .ok _ => return .closed .notPermitted
  | .error _ => return .unreachable .notPermitted

/-- What is found at a path. -/
def stateAt (path : Text) : IO FileState := do
  match ← (IO.FS.readBinFile (String.ofList path)).toBaseIO with
  | .ok content => return .bytes content
  | .error (.noFileOrDirectory ..) => return .missing
  | .error (.inappropriateType _ number _) =>
    return if number = directoryError then .directory else .unreachable .notDirectory
  | .error (.invalidArgument _ number _) =>
    return .unreachable (if path.contains (Char.ofNat 0) then .nullInPath
      else if number = linksError then .tooManyLinks else .nameTooLong)
  | .error (.permissionDenied ..) => lockedAt path
  | .error _ => return .closed .unreadable

/-- The files at some paths. -/
def filesAt (paths : List Text) : IO Files := do
  let states ← paths.mapM fun path => return (path, ← stateAt path)
  return fun path => (states.lookup path).getD .missing

/-- The time on the clock. -/
def clockTime : IO Moment := do
  let now ← Std.Time.PlainDateTime.now
  let date : Date := ⟨now.date.year.toInt.toNat, now.date.month.val.toNat, now.date.day.val.toNat⟩
  let clock : Clock := ⟨now.time.hour.val.toNat, now.time.minute.val.toNat,
    now.time.second.val.toNat, now.time.nanosecond.val.toNat / 1000⟩
  return (Moment.of? date clock).getD default

/-- The variables of the environment that a run looks at. -/
def variableNames : List Text :=
  [Settings.homeVariable, Settings.pathVariable, "USER".toList]

/-- The variables that are set. -/
def environment : IO Environment := do
  let values ← variableNames.mapM fun name => do
    return (← IO.getEnv (String.ofList name)).map fun value => (name, value.toList)
  return values.filterMap id

/-- The text of the list of accounts, if there is one. -/
def accounts : IO Text := do
  match ← stateAt "/etc/passwd".toList with
  | .bytes content => return (decode? content).getD []
  | _ => return []

/-- The width of the screen. -/
def screenWidth : IO Nat := do
  return ((← IO.getEnv "COLUMNS").bind String.toNat?).getD 80

/-- The surroundings of a run. -/
def surroundings (args : List Text) : IO Surroundings := do
  let environment ← environment
  let homeOf := Path.homeIn (← accounts)
  let settings := ((Settings.defaultPath environment homeOf).toOption.bind id).toList
  let stdin ← IO.getStdin
  let input ← if CommandLine.readsInput args then stdin.readBinToEnd else pure .empty
  return { now := ← clockTime, environment, homeOf,
           files := ← filesAt (settings ++ CommandLine.paths args), input,
           screen := ← screenWidth, word := Cause.text }

/-- Adds lines to a log file, each with the time of the run. -/
def writeLog (now : Moment) (path : Text) (lines : List LogLine) : IO Unit := do
  IO.FS.createDirAll (String.ofList (Path.parent path))
  let file ← IO.FS.Handle.mk (String.ofList path) .append
  lines.forM fun line => file.putStr (String.ofList (line.stamped now))

/-- Writes what a run leaves. -/
def write (now : Moment) : Ending → IO UInt32
  | .printed p => do
    p.logFile.forM fun (path, lines) => writeLog now path lines
    IO.eprint (String.ofList p.errors)
    IO.print (String.ofList p.output)
    return UInt32.ofNat p.exit.toNat
  | .misused (.unusablePath cause) | .broken cause => do
    IO.eprintln (String.ofList ("Error: ".toList ++ cause.text))
    return 1
  | .misused fault => do
    IO.eprintln (String.ofList ("Error: ".toList ++ fault.message))
    return 2

end RecordFilter.Program

/-- Runs the command line and returns its exit code. -/
def main (args : List String) : IO UInt32 := do
  let args := args.map String.toList
  let s ← RecordFilter.Program.surroundings args
  RecordFilter.Program.write s.now (RecordFilter.CommandLine.run s args)
