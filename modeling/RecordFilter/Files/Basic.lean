import RecordFilter.Files.Environment
import RecordFilter.Files.Path

/-!
Files, and what can be wrong with their content.

A message about a file names the file and may end in a cause. Causes come from the layers below,
such as the file system and the data formats, and are worded by whoever shows the message.
-/

namespace RecordFilter

/-- Why something below the program has failed. -/
inductive Cause
  | noSuchFile
  | isDirectory
  /-- A part of a path that should be a directory is a file. -/
  | notDirectory
  /-- A file is where a directory is to be made. -/
  | fileInTheWay
  | nameTooLong
  /-- A path does not come to an end, because its links lead back to themselves. -/
  | tooManyLinks
  | notPermitted
  /-- A device has failed, or something else that has no name here. -/
  | unreadable
  /-- A path holds the character that no path can hold. -/
  | nullInPath
  /-- The content is not text in the common encoding. -/
  | notText
  | malformedJson
  | malformedToml
  | wrongAliases
  | wrongPresets
  | tooManyDigits
  | numberTooLarge
  | repeatTooLarge
  | scriptConflict
  | crossedGroup
  | nestedTooDeeply
  | noSuchYear
  | itemNotText
  /-- The tags of a heading cannot be read. -/
  | wrongHeading
  /-- The home directory that a path begins with is not known. -/
  | noHome
  deriving DecidableEq

/-- What is found at a path. -/
inductive FileState
  | missing
  | directory
  | bytes (content : ByteArray)
  /-- Something is at the path, but its content cannot be had. -/
  | closed (cause : Cause)
  /-- Nothing can be at the path. -/
  | unreachable (cause : Cause)

/-- The files that can be read. -/
abbrev Files := Text → FileState

/-- A message, with the cause that it ends in if it has one. -/
structure Wording where
  summary : Text
  cause : Option Cause := none

/-- The whole message, with the cause put into words. -/
def Wording.text (word : Cause → Text) (w : Wording) : Text :=
  match w.cause with
  | none => w.summary
  | some cause => w.summary ++ ": ".toList ++ word cause

namespace Cause

/-- The words for a cause. -/
def text : Cause → Text
  | noSuchFile => "no such file".toList
  | isDirectory => "is a directory".toList
  | notDirectory => "not a directory".toList
  | fileInTheWay => "file exists".toList
  | nameTooLong => "file name too long".toList
  | tooManyLinks => "too many levels of symbolic links".toList
  | notPermitted => "permission denied".toList
  | unreadable => "input or output error".toList
  | nullInPath => "null character in a path".toList
  | notText => "content is not UTF-8 text".toList
  | malformedJson => "content is not JSON".toList
  | malformedToml => "content is not TOML".toList
  | wrongAliases => "aliases must map texts to texts".toList
  | wrongPresets => "presets must be a list of objects with a name and a filter".toList
  | tooManyDigits => "integer with too many digits".toList
  | numberTooLarge => "integer too large for a floating point number".toList
  | repeatTooLarge => "repetition number of a pattern is too large".toList
  | scriptConflict => "pattern flags for scripts are incompatible".toList
  | crossedGroup => "group of a pattern ends before its beginning".toList
  | nestedTooDeeply => "content is nested too deeply".toList
  | noSuchYear => "year is out of range".toList
  | itemNotText => "list item is not text".toList
  | wrongHeading => "heading with tags that cannot be read".toList
  | noHome => "could not determine home directory".toList

end Cause

/-- Why a file of settings or presets is not used. -/
inductive FileFault
  /-- The file cannot be read, or its content is not what it should be. -/
  | refused (wording : Wording)
  /-- Something else has failed on the way. -/
  | broken (cause : Cause)

/-- The text of a content, if it is text. -/
def decode? (content : ByteArray) : Option Text :=
  (String.fromUTF8? content).map String.toList

/-- The content of a file as bytes, or the reason why there is none. -/
def FileState.read : FileState → Except Cause ByteArray
  | missing => .error .noSuchFile
  | directory => .error .isDirectory
  | bytes content => .ok content
  | closed cause | unreachable cause => .error cause

/-- Whether a part of a path is longer than the names of files can be. -/
def Path.hasLongName (path : Text) : Bool :=
  (Path.parts path).any fun name => 255 < (String.ofList name).utf8ByteSize

/-- Why no text can be added to the file at a path, if none can. A file that is missing is made
    then, as are the directories that it lies in. -/
def Files.writeFault? (files : Files) (path : Text) : Option Cause :=
  match files (Path.parent path), files path with
  | .bytes _, _ => some .fileInTheWay
  | .closed cause, _ | .unreachable cause, _ => some cause
  | .missing, _ => if Path.hasLongName path then some .nameTooLong else none
  | .directory, .directory => some .isDirectory
  | .directory, .closed cause | .directory, .unreachable cause => some cause
  | .directory, _ => none

end RecordFilter
