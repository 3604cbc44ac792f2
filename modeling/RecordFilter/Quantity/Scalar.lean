import RecordFilter.Quantity.ByteSize
import RecordFilter.Quantity.Duration

/-!
The typed reading of a clause's text.

A text is read as the first kind of quantity that accepts it, in a fixed order; a text that none
accepts stays a text. The order makes `4` an integer and not a size, and `30m` a size and not half
an hour.
-/

namespace RecordFilter

/-- The kinds of clause values. -/
inductive Kind
  | integer | float | boolean | memory | clusterDuration | duration | string
  /-- The list of texts of a membership clause. -/
  | stringList
  deriving DecidableEq, Repr

/-- The name of a kind. -/
def Kind.name : Kind → Text
  | integer => "integer".toList
  | float => "float".toList
  | boolean => "boolean".toList
  | memory => "memory".toList
  | clusterDuration => "cluster_duration".toList
  | duration => "duration".toList
  | string => "string".toList
  | stringList => "string_list".toList

/-- All kinds. -/
def Kind.all : List Kind :=
  [integer, float, boolean, memory, clusterDuration, duration, string, stringList]

/-- The kind of a name. -/
def Kind.ofName? (name : Text) : Option Kind :=
  all.find? (·.name = name)

/-- A text read as a quantity. -/
inductive Scalar
  | integer (value : Int)
  | float (value : Binary64)
  | boolean (value : Bool)
  | memory (bytes : Int)
  | clusterDuration (value : Duration)
  | duration (value : Duration)
  | string (text : Text)
  deriving DecidableEq

namespace Scalar

/-- The kind of the reading. -/
def kind : Scalar → Kind
  | integer _ => .integer
  | float _ => .float
  | boolean _ => .boolean
  | memory _ => .memory
  | clusterDuration _ => .clusterDuration
  | duration _ => .duration
  | string _ => .string

/-- Reads a text as one kind of quantity. -/
def readAs (kind : Kind) (text : Text) : Except ReadError Scalar :=
  match kind with
  | .integer => (Quantity.readInteger text).map integer
  | .float => (Quantity.readFloat text).map float
  | .boolean => (Quantity.readBoolean text).map boolean
  | .memory => (Quantity.readSize text).map memory
  | .clusterDuration => (Duration.readCluster text).map clusterDuration
  | .duration => (Duration.readCompact text).map duration
  | .string | .stringList => .ok (string text)

/-- The kinds in the order in which they are tried. -/
def order : List Kind :=
  [.integer, .float, .boolean, .memory, .clusterDuration, .duration]

/-- Reads a text as the first kind in the order that accepts it. -/
def read (text : Text) : Scalar :=
  (order.findSome? fun kind => (readAs kind text).toOption).getD (string text)

end Scalar

end RecordFilter
