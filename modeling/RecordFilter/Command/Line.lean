import RecordFilter.Command.Arguments
import RecordFilter.Command.Basic

/-!
Reading the command line.

Options for all commands stand before the name of the command. Those for the form of the report
may also stand behind it, where they count for more.
-/

namespace RecordFilter.CommandLine

/-- The option that asks for help. -/
def helpOption : OptionSpec := { name := "help", short := some 'h' }

/-- The options for the form of the report. -/
def formOptions : List OptionSpec :=
  [{ name := "output", takesValue := true }, { name := "json" },
   { name := "quiet", short := some 'q' }]

/-- The options before the command. -/
def modeOptions : List OptionSpec :=
  formOptions ++ [{ name := "v", short := some 'v', hasLong := false },
    { name := "config", takesValue := true }, { name := "log-file", takesValue := true },
    { name := "version" }, helpOption]

/-- The options of the command that reads a filter. -/
def parseOptions : List OptionSpec :=
  { name := "or" } :: formOptions ++ [helpOption]

/-- The options of the command that finds records. -/
def findOptions : List OptionSpec :=
  [{ name := "file", takesValue := true }, { name := "preset", takesValue := true },
   { name := "or" }, { name := "check" }, { name := "since", takesValue := true },
   { name := "date-field", takesValue := true }] ++ formOptions ++ [helpOption]

/-- The options of the command that reads a value. -/
def coerceOptions : List OptionSpec :=
  formOptions ++ [helpOption]

/-- The options of the command that lists presets. -/
def presetsOptions : List OptionSpec :=
  [{ name := "view", takesValue := true }, { name := "file", takesValue := true }] ++
    formOptions ++ [helpOption]

/-- A word that names a form of the report. -/
def formOf (word : Text) : Except UsageFault ReportForm :=
  if word = "table".toList then .ok .table
  else if word = "json".toList then .ok .json
  else .error .badParameter

/-- The form that is named, if one is. -/
def namedForm (arguments : Arguments) : Except UsageFault (Option ReportForm) :=
  match arguments.value? "output" with
  | none => .ok none
  | some word => (formOf word).map some

/-- A path that is given for an option. A directory is refused, and a file that may not be read. -/
def pathOf (files : Files) (arguments : Arguments) (name : String) :
    Except UsageFault (Option Text) :=
  match arguments.value? name with
  | none => .ok none
  | some path =>
    match if path.isEmpty then .missing else files (Path.normalize path) with
    | .directory | .closed .notPermitted => .error .badParameter
    | .unreachable .nullInPath => .error (.unusablePath .nullInPath)
    | _ => .ok (some (Path.normalize path))

/-- The mode that the options before the command ask for. -/
def modeOf (files : Files) (arguments : Arguments) : Except UsageFault Mode := do
  let form ← namedForm arguments
  let configPath ← pathOf files arguments "config"
  let logPath ← pathOf files arguments "log-file"
  return { form := if arguments.has "json" then .json else form.getD .table,
           quiet := arguments.has "quiet", verbosity := arguments.count "v", configPath, logPath }

/-- The mode with what the options behind the command change. Of the two options for the form, the
    one that is first given last counts. -/
def overridden (mode : Mode) (arguments : Arguments) : Except UsageFault Mode := do
  let named ← namedForm arguments
  let form :=
    match named with
    | none => if arguments.has "json" then .json else mode.form
    | some form =>
      if arguments.has "json" && arguments.first? ["output", "json"] = some "output" then .json
      else form
  return { mode with form, quiet := mode.quiet || arguments.has "quiet" }

/-- The one argument of a command. -/
def onlyArgument (arguments : Arguments) : Except UsageFault Text :=
  match arguments.rest with
  | [] => .error .missingParameter
  | [arg] => .ok arg
  | _ => .error .extraArgument

/-- The argument of a command that need not have one. -/
def argument? (arguments : Arguments) : Except UsageFault (Option Text) :=
  match arguments.rest with
  | [] => .ok none
  | [arg] => .ok (some arg)
  | _ => .error .extraArgument

/-- The commands by name, with their options. -/
def commands : List (Text × List OptionSpec) :=
  [("parse".toList, parseOptions), ("match".toList, findOptions), ("coerce".toList, coerceOptions),
   ("presets".toList, presetsOptions)]

/-- The views that presets can be listed for. -/
def viewNames : List Text :=
  ["jobs".toList, "nodes".toList, "all".toList]

/-- The command that a name and what is behind it ask for. -/
def commandOf (files : Files) (name : Text) (arguments : Arguments) :
    Except UsageFault Command := do
  if name = "parse".toList then
    return .parse (← onlyArgument arguments) (arguments.has "or")
  else if name = "match".toList then
    return .find
      { filter := ← argument? arguments, preset := arguments.value? "preset",
        isAny := arguments.has "or", since := arguments.value? "since",
        dateField := (arguments.value? "date-field").getD "SubmitTime".toList,
        source := (arguments.value? "file").getD ['-'], check := arguments.has "check" }
  else if name = "coerce".toList then return .coerce (← onlyArgument arguments)
  else
    let view := arguments.value? "view"
    if view.any fun view => !viewNames.contains view then throw .badParameter
    let file ← pathOf files arguments "file"
    if !arguments.rest.isEmpty then throw .extraArgument
    return .presets view file

/-- Refuses a log file that cannot be written. -/
def checkLog (files : Files) (mode : Mode) : Except UsageFault Unit :=
  match mode.logPath.bind files.writeFault? with
  | none => .ok ()
  | some cause => .error (.unusablePath cause)

/-- Reads what is behind the options for all commands. The log file is opened once the name of the
    command is known, before what is behind the name is read. -/
def readCommand (files : Files) (mode : Mode) : List Text → Except UsageFault Request
  | [] => .ok .help
  | name :: args =>
    match commands.lookup name with
    | none => .error .noSuchCommand
    | some specs => do
      checkLog files mode
      let arguments ← Arguments.read specs true args
      if arguments.has "help" then return .help
      let mode ← overridden mode arguments
      return .run mode (← commandOf files name arguments)

/-- Reads a command line. -/
def read (files : Files) (args : List Text) : Except UsageFault Request := do
  let arguments ← Arguments.read modeOptions false args
  match arguments.first? ["help", "version"] with
  | some "help" => return .help
  | some _ => return .version
  | none => readCommand files (← modeOf files arguments) arguments.rest

/-- The files that a command looks at. -/
def commandPaths : Command → List Text
  | .find query => if query.source = ['-'] then [] else [Path.normalize query.source]
  | .presets _ file => file.toList
  | _ => []

/-- The files that a request looks at, apart from settings that the environment names. -/
def requestPaths : Request → List Text
  | .run mode command =>
    mode.configPath.toList ++ mode.logPath.toList.flatMap (fun path => [Path.parent path, path]) ++
      commandPaths command
  | _ => []

/-- The files that a command line names. -/
def paths (args : List Text) : List Text :=
  match read (fun _ => .missing) args with
  | .ok request => requestPaths request
  | .error _ => []

/-- Whether a command line asks for records on the standard input. -/
def readsInput (args : List Text) : Bool :=
  match read (fun _ => .missing) args with
  | .ok (.run _ (.find query)) => query.source = ['-']
  | _ => false

end RecordFilter.CommandLine
