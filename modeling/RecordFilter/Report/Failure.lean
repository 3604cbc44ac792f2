import RecordFilter.Clause.Parser
import RecordFilter.Report.Basic

/-!
Failures: why a command has no result, with the exit code and the error of its report.
-/

namespace RecordFilter

/-- Why a command has no result. -/
inductive Failure
  /-- A failure that is told with an exit code and a type of its own. -/
  | stated (exit : Int) (info : ErrorInfo)
  /-- A text is not a filter. -/
  | filter (error : ParseError)
  /-- A file of settings or presets cannot be used. -/
  | settings (message : Text)
  /-- Another failure of the library, which has a name. -/
  | named (name message : Text)
  /-- A failure of the layers below, with its name for want of a message. -/
  | unexpected (name message : Text)

namespace Failure

/-- The command has been used in a way that makes no sense. -/
def usage (message : Text) (hint : Option Text := none) : Failure :=
  stated 2 { type := "usage_error".toList, message, hint }

/-- The exit code that tells of a failure. -/
def exitCode : Failure → Int
  | stated exit _ => exit
  | filter _ => 2
  | settings _ => 2
  | named .. => 1
  | unexpected .. => 1

/-- The text of a failure. -/
def text : Failure → Text
  | stated _ info => info.message
  | filter error => error.message
  | settings message => message
  | named _ message => message
  | unexpected _ message => message

/-- What clauses look like, for those who write them. -/
def clauseHint : Text :=
  "Clauses look like field=value, field>=value or field in (a,b).".toList

/-- What a report says about a failure. -/
def info : Failure → ErrorInfo
  | stated _ info => info
  | filter error =>
    { type := "parse_error".toList, message := error.message, hint := some clauseHint,
      details := some [("clause".toList, .ofText? error.clause),
        ("cause".toList, .text error.fault.name)] }
  | settings message => { type := "config_error".toList, message }
  | named name message => { type := name, message }
  | unexpected name message =>
    { type := "internal_error".toList, message := if message.isEmpty then name else message }

end Failure

end RecordFilter
