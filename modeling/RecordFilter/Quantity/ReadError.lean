import RecordFilter.Text.Quoted

/-!
Why a text is not read as a number, a truth value, a size or a duration.
-/

namespace RecordFilter

/-- The reasons why a text is not read as a quantity of a kind. -/
inductive ReadError
  | notInteger (text : Text)
  | notFloat (text : Text)
  | notBoolean (text : Text)
  | notSize (text : Text)
  | sizeOutOfRange (text : Text)
  | notClusterDuration (text : Text)
  | notClockTime (part : Text)
  | clusterDurationOutOfRange (text : Text)
  | notDuration (text : Text)
  | durationOutOfRange (text : Text)
  /-- An integer numeral with more digits than are converted. -/
  | tooManyDigits
  /-- A name of a number that is spelled with a letter of another alphabet. -/
  | foreignName
  deriving DecidableEq

/-- The wording of a reason, with the text in question in quotes. -/
def ReadError.message : ReadError → Text
  | notInteger text => "invalid integer: ".toList ++ Text.quoted text
  | notFloat text => "invalid float: ".toList ++ Text.quoted text
  | notBoolean text => "invalid boolean: ".toList ++ Text.quoted text
  | notSize text => "invalid memory size format: ".toList ++ Text.quoted text
  | sizeOutOfRange text => "memory size out of range: ".toList ++ Text.quoted text
  | notClusterDuration text => "invalid cluster duration: ".toList ++ Text.quoted text
  | notClockTime part => "invalid time format: ".toList ++ Text.quoted part
  | clusterDurationOutOfRange text => "cluster duration out of range: ".toList ++ Text.quoted text
  | notDuration text => "invalid duration: ".toList ++ Text.quoted text
  | durationOutOfRange text => "duration out of range: ".toList ++ Text.quoted text
  | tooManyDigits => "integer with too many digits".toList
  | foreignName => "number name with a foreign letter".toList

end RecordFilter
