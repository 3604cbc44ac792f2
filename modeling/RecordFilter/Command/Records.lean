import RecordFilter.Command.Task

/-!
Reading records: an array of objects, or one object on each line.
-/

namespace RecordFilter.Records

/-- Why records cannot be read. -/
inductive RecordsFault
  /-- The source cannot be read. -/
  | unreadable (cause : Cause)
  /-- The content is not in the format. -/
  | malformed
  /-- Something in the content is no record. -/
  | notRecords
  /-- The content cannot be taken as it is. -/
  | broken (cause : Cause)
  deriving DecidableEq

/-- A value of a data file. -/
def readValue (text : Text) : Except RecordsFault Value :=
  match Json.read text with
  | .ok value => .ok value
  | .error .malformed => .error .malformed
  | .error .tooManyDigits => .error (.broken .tooManyDigits)
  | .error .nestedTooDeeply => .error (.broken .nestedTooDeeply)

/-- The values of a text: the items of an array, or one on each line that is not blank. -/
def readValues (text : Text) : Except RecordsFault (List Value) :=
  let text := Text.trim text
  match text with
  | [] => .ok []
  | '[' :: _ => do
    match ← readValue text with
    | .list items => return items
    | _ => throw .notRecords
  | _ => ((Text.lines text).filter fun line => !Text.isBlankText line).mapM readValue

/-- The record that a value is. -/
def ofValue : Value → Except RecordsFault Record
  | .dict entries => .ok entries
  | _ => .error .notRecords

/-- Reads the records of a text. -/
def read (text : Text) : Except RecordsFault (List Record) := do
  (← readValues text).mapM ofValue

/-- The text of a source: a file, or the input for a hyphen. -/
def sourceText (s : Surroundings) (source : Text) : Except RecordsFault Text :=
  let state := if source = ['-'] then .bytes s.input else s.files (Path.normalize source)
  match state.read with
  | .error .nullInPath => .error (.broken .nullInPath)
  | .error cause => .error (.unreadable cause)
  | .ok content =>
    match decode? content with
    | some text => .ok text
    | none => .error (.broken .notText)

/-- Reads the records of a source. -/
def readSource (s : Surroundings) (source : Text) : Except RecordsFault (List Record) := do
  read (← sourceText s source)

/-- What records look like, for those who write them. -/
def recordsHint : Text :=
  "Pass a JSON array of objects or one JSON object per line.".toList

/-- The failure of records that cannot be read. -/
def failure (s : Surroundings) (source : Text) : RecordsFault → Failure
  | .unreadable cause =>
    .stated 2
      { type := "io_error".toList
        message := "Cannot read ".toList ++ source ++ ": ".toList ++ s.word cause }
  | .malformed =>
    .usage ("Invalid JSON in ".toList ++ source ++ ": ".toList ++ s.word .malformedJson)
      (some recordsHint)
  | .notRecords => .usage ("Records in ".toList ++ source ++ " must be JSON objects.".toList)
  | .broken cause => s.unexpected cause

end RecordFilter.Records
