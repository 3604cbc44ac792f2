import RecordFilter.Json.Writer

/-!
Reports: what a command tells about its run, as one object that a program can read.
-/

namespace RecordFilter

/-- What a report says about an error. -/
structure ErrorInfo where
  type : Text
  message : Text
  hint : Option Text := none
  details : Option Record := none

/-- The report of one run of a command. -/
structure Report where
  command : Text
  ok : Bool := true
  data : Value := .null
  warnings : List Text := []
  milliseconds : Int := 0
  configPath : Option Text := none
  columns : Option (List Text) := none
  error : Option ErrorInfo := none

/-- The parts of an error by name. -/
def ErrorInfo.described (e : ErrorInfo) : Value :=
  .dict [("type".toList, .text e.type), ("message".toList, .text e.message),
    ("hint".toList, .ofText? e.hint),
    ("details".toList, match e.details with
      | some details => .dict details
      | none => .null)]

namespace Report

/-- What a report says about the run itself. -/
def runPart (r : Report) : Value :=
  .dict [("durationMs".toList, .integer r.milliseconds),
    ("configPath".toList, .ofText? r.configPath), ("columns".toList, .ofTexts? r.columns)]

/-- The parts of a report by name. -/
def described (r : Report) : Value :=
  .dict [("ok".toList, .boolean r.ok), ("command".toList, .text r.command),
    ("data".toList, r.data), ("warnings".toList, .list (r.warnings.map .text)),
    ("meta".toList, r.runPart),
    ("error".toList, match r.error with
      | some e => e.described
      | none => .null)]

/-- The details of the error of a report. -/
def details (r : Report) : Record :=
  (r.error.bind ErrorInfo.details).getD []

/-- How many values may be nested in one another in the data of a report that is written, and in
    each of the details of its error. -/
def heightLimit : Nat := 255

/-- Whether a report is nested too deeply to be written. -/
def isTooHigh (r : Report) : Bool :=
  heightLimit < Json.height r.data || heightLimit < Json.heightOfEntries r.details

/-- Why a report is not written, if it is not. -/
def writeFault? (r : Report) : Option Fault :=
  if r.isTooHigh then some .nestedTooDeeply
  else if Json.hasLongNumber r.described then some .tooManyDigits
  else none

/-- The report on one line. -/
def line (r : Report) : Text :=
  Json.write r.described ++ ['\n']

end Report

end RecordFilter
