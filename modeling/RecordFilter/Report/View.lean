import RecordFilter.Report.Basic
import RecordFilter.Report.Shown
import RecordFilter.Screen.Markup
import RecordFilter.Screen.Table
import RecordFilter.Text.Case

/-!
Reports as they are shown to a reader.

A parsed filter and matched records have views of their own. Other data is shown as tables: a list
of objects as one, an object as one for its plain parts and one for each part that is a list of
objects. Errors and the time a run took go to the error output.
-/

namespace RecordFilter

open Screen

/-- Why a report cannot be shown. -/
inductive ViewFault
  /-- The tags of a heading cannot be read. -/
  | heading (fault : MarkupFault)
  /-- Something that should be a row or a list of rows has no parts. -/
  | noParts
  /-- A row is no object. -/
  | noFields
  /-- Something that should be a count is a text. -/
  | noNumber
  /-- A value has no text. -/
  | value (fault : Fault)
  deriving DecidableEq

/-- The text of a value, or the fault of the view. -/
def Value.forView (text : Except Fault Text) : Except ViewFault Text :=
  text.mapError .value

/-- The rows that a value stands for. -/
def Value.rows : Value → Except ViewFault (List Value)
  | .list items | .tuple items => .ok items
  | .dict entries => .ok (entries.map fun (name, _) => .text name)
  | .text t => .ok (t.map fun c => .text [c])
  | _ => .error .noParts

/-- The columns of rows: their fields in the order in which they first occur. -/
def columnsOf (rows : List Value) : Except ViewFault (List Text) := do
  let parts ← rows.mapM Value.rows
  if parts.all List.isEmpty then return []
  let names ← rows.mapM fun
    | .dict entries => .ok (entries.map Prod.fst)
    | _ => .error .noFields
  return names.flatten.foldl (fun seen name => if seen.contains name then seen else seen ++ [name])
    []

/-- The cells of a row. -/
def rowCells (columns : List Text) : Value → Except ViewFault (List Text)
  | .dict entries => columns.mapM fun column =>
    Value.forView (((entries.lookup column).getD .null).cellText.map withoutControls)
  | _ => if columns.isEmpty then .ok [] else .error .noFields

/-- The heads of columns without the tags in their names. -/
def headsOf (columns : List Text) : Except ViewFault (List Text) :=
  columns.mapM fun column => (withoutTags column).mapError .heading

/-- A table of rows. -/
def rowTable (rows : List Value) (columns : Option (List Text)) : Except ViewFault Block := do
  let columns ← match columns with
    | some columns => .ok columns
    | none => columnsOf rows
  let cells ← rows.mapM (rowCells columns)
  return .table ⟨← headsOf columns, cells⟩

/-- A table of the parts of an object. -/
def partTable (entries : List (Text × Value)) : Except ViewFault Block := do
  let rows ← entries.mapM fun (name, value) => do
    return [withoutControls name, withoutControls (← Value.forView value.cellText)]
  return .table ⟨["field".toList, "value".toList], rows⟩

/-- The part of an object, or nothing. -/
def partOf (entries : List (Text × Value)) (name : String) : Value :=
  (entries.lookup name.toList).getD .null

/-- The rows in a part of an object. There are none if the part is missing or void. -/
def rowsIn (entries : List (Text × Value)) (name : String) : Except ViewFault (List Value) :=
  let value := partOf entries name
  if value.isVoid then .ok [] else value.rows

/-- The view of a filter. -/
def filterBlocks (filter : List (Text × Value)) : Except ViewFault (List Block) := do
  let rows ← rowsIn filter "expressions"
  let logic ← Value.forView (partOf filter "logic").shown
  let name := partOf filter "name"
  let heading ←
    if name.isVoid then pure ("logic: ".toList ++ logic)
    else pure ((← Value.forView name.shown) ++ " (".toList ++ logic ++ [')'])
  if rows.isEmpty then
    return [.text (heading ++ ": empty filter, matches everything".toList)]
  else return [.text heading, ← rowTable rows none]

/-- A count as it is shown. -/
def countText : Value → Except ViewFault Text
  | .integer n | .size n => Value.forView ((integerText n).map grouped)
  | .boolean b => .ok (if b then ['1'] else ['0'])
  | .float x => .ok (grouped x.text)
  | .text _ => .error .noNumber
  | _ => .error .noParts

/-- The view of matched records. -/
def matchBlocks (columns : Option (List Text)) (data : List (Text × Value)) :
    Except ViewFault (List Block) := do
  let count (name : String) := countText ((data.lookup name.toList).getD (.integer 0))
  let matched ← count "count"
  let total ← count "total"
  let summary := Block.text (matched ++ " of ".toList ++ total ++ " record(s) matched".toList)
  let records := partOf data "records"
  if records.isVoid then return [summary]
  else return [← rowTable (← records.rows) columns, summary]

/-- Whether a value is an object. -/
def Value.isDict : Value → Bool
  | .dict _ => true
  | _ => false

/-- The rows of a list that has some and nothing but objects. -/
def Value.rowList? : Value → Option (List Value)
  | .list (row :: rows) => if (row :: rows).all isDict then some (row :: rows) else none
  | _ => none

/-- A name as a title. -/
def titleText (name : Text) : Text :=
  Text.capitalize (Text.trim (Text.replaceAll ['_'] [' '] name))

/-- The view of an object. -/
def objectBlocks (columns : Option (List Text)) (entries : List (Text × Value)) :
    Except ViewFault (List Block) := do
  let plain := entries.filter fun (_, value) => value.rowList?.isNone
  let first ← if plain.isEmpty then pure [] else pure [← partTable plain]
  let sections ← entries.mapM fun (name, value) =>
    match value.rowList? with
    | some rows => do return [Block.text (titleText name), ← rowTable rows columns]
    | none => .ok []
  return first ++ sections.flatten

/-- The view of data that is the result of no particular command. -/
def dataBlocks (columns : Option (List Text)) : Value → Except ViewFault (List Block)
  | .null => .ok []
  | .list items => do return [← rowTable (items.filter Value.isDict) columns]
  | .dict entries => objectBlocks columns entries
  | value => do return [.text (← Value.forView value.shown)]

namespace Report

/-- The view of the data of a report. -/
def blocks (r : Report) : Except ViewFault (List Block) :=
  match r.data with
  | .dict entries =>
    if r.command = "parse".toList then
      match partOf entries "filter" with
      | .dict filter => filterBlocks filter
      | _ => dataBlocks r.columns r.data
    else if r.command = "match".toList then matchBlocks r.columns entries
    else dataBlocks r.columns r.data
  | data => dataBlocks r.columns data

/-- The titles of the types of errors. -/
def errorTitles : List (Text × Text) :=
  [("usage_error", "Usage error"), ("parse_error", "Invalid filter"),
   ("config_error", "Configuration error"), ("io_error", "I/O error"),
   ("internal_error", "Internal error")].map fun (type, title) => (type.toList, title.toList)

/-- The title of an error. -/
def errorTitle (type : Text) : Text :=
  (errorTitles.lookup (Text.trim type)).getD "Error".toList

/-- A message on the error output. -/
def note (message : Text) : Block :=
  .text (withEmojis message)

/-- The view of an error. -/
def errorBlocks (quiet : Bool) : Option ErrorInfo → List Block
  | none => [note "Error".toList]
  | some e =>
    let hint := (e.hint.filter fun hint => !hint.isEmpty && !quiet).toList
    note (errorTitle e.type ++ ": ".toList ++ e.message) ::
      hint.map fun hint => note ("Hint: ".toList ++ hint)

/-- What the two outputs show of a report. A run that has failed shows its error only, and the time
    is shown to those who ask for more. -/
def shown (screen : Nat) (quiet : Bool) (verbosity : Int) (r : Report) :
    Except ViewFault (Text × Text) :=
  if r.ok then do
    let blocks ← r.blocks
    let time := if 0 < verbosity && !quiet then
        [note ('(' :: Text.ofInt r.milliseconds ++ " ms)".toList)] else []
    return (print screen blocks, print screen time)
  else .ok ([], print screen (errorBlocks quiet r.error))

/-- What the error output shows of the warnings of a report. -/
def warningText (screen : Nat) (quiet : Bool) (r : Report) : Text :=
  if quiet then []
  else print screen (r.warnings.map fun warning => note ("Warning: ".toList ++ warning))

end Report

end RecordFilter
