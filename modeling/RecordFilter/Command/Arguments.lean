import RecordFilter.Files.Basic

/-!
Options and arguments of a command line.

A long option may have its value behind an equals sign, and short options may be written together
behind one hyphen. After two hyphens nothing is an option any more.
-/

namespace RecordFilter

/-- How a command line can be wrong. -/
inductive UsageFault
  | noSuchOption
  /-- An option lacks its value, or has one that it does not take. -/
  | badOptionUsage
  /-- A value is none of those that an option takes. -/
  | badParameter
  | missingParameter
  /-- There are more arguments than the command takes. -/
  | extraArgument
  | noSuchCommand
  /-- A path cannot serve the purpose that it is given for. -/
  | unusablePath (cause : Cause)
  deriving DecidableEq

/-- The wording of what is wrong. -/
def UsageFault.message : UsageFault → Text
  | noSuchOption => "No such option.".toList
  | badOptionUsage => "Option lacks its value or takes none.".toList
  | badParameter => "Invalid value for option.".toList
  | missingParameter => "Missing argument.".toList
  | extraArgument => "Got unexpected extra argument.".toList
  | noSuchCommand => "No such command.".toList
  | unusablePath cause => "Path cannot be used: ".toList ++ cause.text

/-- An option of a command. -/
structure OptionSpec where
  /-- The name, which is also its long form after two hyphens. -/
  name : String
  short : Option Char := none
  takesValue : Bool := false
  /-- Whether the option has a long form. -/
  hasLong : Bool := true

/-- An option that is given, with its value if it takes one. -/
structure GivenOption where
  name : String
  value : Text := []
  deriving DecidableEq

/-- A command line taken apart. -/
structure Arguments where
  options : List GivenOption
  rest : List Text
  deriving DecidableEq

namespace Arguments

/-- The option with a long form. -/
def long? (specs : List OptionSpec) (form : Text) : Option OptionSpec :=
  specs.find? fun spec => spec.hasLong && '-' :: '-' :: spec.name.toList = form

/-- Reads a long option. The answer says whether its value is the argument after it. -/
def readLong (spec : OptionSpec) (value next : Option Text) :
    Except UsageFault (List GivenOption × Bool) :=
  if spec.takesValue then
    match value, next with
    | some value, _ => .ok ([⟨spec.name, value⟩], false)
    | none, some value => .ok ([⟨spec.name, value⟩], true)
    | none, none => .error .badOptionUsage
  else if value.isSome then .error .badOptionUsage
  else .ok ([⟨spec.name, []⟩], false)

/-- Reads short options that are written together. None of them takes a value. -/
def readShort (specs : List OptionSpec) (letters : Text) : Except UsageFault (List GivenOption) :=
  letters.mapM fun letter =>
    match specs.find? fun spec => spec.short = some letter with
    | some spec => .ok ⟨spec.name, []⟩
    | none => .error .noSuchOption

/-- Reads one option. -/
def readOption (specs : List OptionSpec) (arg : Text) (next : Option Text) :
    Except UsageFault (List GivenOption × Bool) :=
  let (form, value) := match Text.cut? ['='] arg with
    | some (form, value) => (form, some value)
    | none => (arg, none)
  match long? specs form with
  | some spec => readLong spec value next
  | none =>
    if ['-', '-'].isPrefixOf arg then .error .noSuchOption
    else (readShort specs arg.tail).map (·, false)

/-- Whether an argument is an option. A single hyphen is none. -/
def isOption (arg : Text) : Bool :=
  ['-'].isPrefixOf arg && arg ≠ ['-']

/-- Takes the rest of a command line apart. The first argument of it may be the value of the option
    before. -/
def readRest (specs : List OptionSpec) (mixed : Bool) :
    Bool → List Text → Except UsageFault Arguments
  | _, [] => .ok ⟨[], []⟩
  | true, _ :: args => readRest specs mixed false args
  | false, arg :: args =>
    if arg = ['-', '-'] then .ok ⟨[], args⟩
    else if isOption arg then do
      let (given, usesNext) ← readOption specs arg args.head?
      let others ← readRest specs mixed usesNext args
      return ⟨given ++ others.options, others.rest⟩
    else if mixed then do
      let others ← readRest specs mixed false args
      return ⟨others.options, arg :: others.rest⟩
    else .ok ⟨[], arg :: args⟩

/-- Takes a command line apart. If it is not `mixed`, the first argument that is no option ends the
    options. -/
def read (specs : List OptionSpec) (mixed : Bool) (args : List Text) :
    Except UsageFault Arguments :=
  readRest specs mixed false args

/-- Whether an option is given. -/
def has (arguments : Arguments) (name : String) : Bool :=
  arguments.options.any (·.name = name)

/-- How often an option is given. -/
def count (arguments : Arguments) (name : String) : Nat :=
  arguments.options.countP (·.name = name)

/-- The value that is given last for an option. -/
def value? (arguments : Arguments) (name : String) : Option Text :=
  (arguments.options.reverse.find? (·.name = name)).map (·.value)

/-- The first given option with one of some names. -/
def first? (arguments : Arguments) (names : List String) : Option String :=
  (arguments.options.find? fun given => names.contains given.name).map (·.name)

end Arguments

end RecordFilter
