import RecordFilter.Calendar.Moment
import RecordFilter.Quantity.Scalar

/-!
Values: what the fields of a record hold and what clauses compare them with.

A clause value is a typed reading of text (`Value.ofScalar`) or a tuple of texts. A record may hold
anything that a data file can, and dates besides.
-/

namespace RecordFilter

/-- A value of a record or of a clause. -/
inductive Value
  | null
  | boolean (value : Bool)
  | integer (value : Int)
  | float (value : Binary64)
  /-- A number of bytes that was read from a memory size. -/
  | size (bytes : Int)
  | duration (value : Duration)
  | date (value : Date)
  | moment (value : Moment)
  | text (value : Text)
  | tuple (items : List Value)
  | list (items : List Value)
  | dict (entries : List (Text × Value))

instance : Inhabited Value := ⟨.null⟩

namespace Value

/-- The value of a typed reading. -/
def ofScalar : Scalar → Value
  | .integer i => integer i
  | .float x => float x
  | .boolean b => boolean b
  | .memory bytes => size bytes
  | .clusterDuration d => duration d
  | .duration d => duration d
  | .string t => text t

/-- Whether a value stands for nothing: no value, a zero, an empty text or an empty row. -/
def isVoid : Value → Bool
  | null => true
  | boolean b => !b
  | integer i => i = 0
  | size n => n = 0
  | float x => x.same (Binary64.zero false)
  | duration d => d.micros = 0
  | text t => t.isEmpty
  | tuple items | list items => items.isEmpty
  | dict entries => entries.isEmpty
  | date _ | moment _ => false

/-- A text, or nothing. -/
def ofText? : Option Text → Value
  | some t => text t
  | none => null

/-- Texts in a row, or nothing. -/
def ofTexts? : Option (List Text) → Value
  | some texts => list (texts.map text)
  | none => null

/-- The texts of a tuple or list that holds nothing but texts. -/
def texts? : Value → Option (List Text)
  | tuple items | list items => items.mapM fun
    | text t => some t
    | _ => none
  | _ => none

end Value

/-- A record: its fields in order, each name once. -/
abbrev Record := List (Text × Value)

/-- Why a comparison cannot be made. -/
inductive Fault
  /-- An integer has more digits than are written out. -/
  | tooManyDigits
  /-- An integer is beyond the range of floating point numbers. -/
  | numberTooLarge
  /-- A repetition bound of a pattern is too large to be counted. -/
  | repeatTooLarge
  /-- A pattern asks for letters of all scripts and for plain letters only. -/
  | scriptConflict
  /-- A group of a pattern would end before its beginning. -/
  | crossedGroup
  /-- A value or a pattern is nested too deeply. -/
  | nestedTooDeeply
  deriving DecidableEq

end RecordFilter
