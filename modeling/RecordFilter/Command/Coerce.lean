import RecordFilter.Command.Task

/-!
The command that shows how a text is read as the value of a clause.
-/

namespace RecordFilter.Command

/-- A reading in a form that a data file can hold. Durations are in seconds, and infinite and
    undefined numbers have no form. -/
def plainReading : Scalar → Value
  | .integer i => .integer i
  | .memory bytes => .integer bytes
  | .float x => if x.isFinite then .float x else .null
  | .boolean b => .boolean b
  | .string t => .text t
  | .clusterDuration d => .float d.totalSeconds
  | .duration d => .float d.totalSeconds

/-- Shows how a text is read. -/
def coerceTask (s : Surroundings) (text : Text) : Task Outcome := do
  let reading := Scalar.read text
  let display ← Task.ofExcept (fun fault => s.unexpected fault.cause)
    (Value.ofScalar reading).display
  return { data := .dict [("raw".toList, .text text), ("kind".toList, .text reading.kind.name),
    ("value".toList, plainReading reading), ("display".toList, .text display)] }

end RecordFilter.Command
