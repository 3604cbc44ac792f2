import RecordFilter.Files.Basic
import RecordFilter.Json.Reader
import RecordFilter.Preset.Basic

/-!
Presets from data files.

A preset is an object with a name and a filter. One without a view, or with a view that is empty in
any way, is global. A truth value may be spelled as a number or a word.
-/

namespace RecordFilter

/-- What is wrong with a part of some data. -/
inductive FlawKind
  /-- A part that must be there is not. -/
  | missing
  | notText
  /-- A value cannot stand for a truth value. -/
  | notBoolean
  /-- A number or word is none of those that stand for truth values. -/
  | unknownBoolean
  | emptyName
  | notObject
  | notTable
  deriving DecidableEq

/-- A flaw of some data, with the names that lead to it. -/
structure Flaw where
  place : List Text
  kind : FlawKind
  deriving DecidableEq

namespace Value

/-- The words for yes. -/
def yesWords : List Text :=
  ["1", "on", "t", "true", "y", "yes"].map String.toList

/-- The words for no. -/
def noWords : List Text :=
  ["0", "off", "f", "false", "n", "no"].map String.toList

/-- The bound on numbers of 64 bits with a sign. -/
def wordLimit : Int := Nat.pow 2 63

/-- The truth value of a number, which must be one or zero. Numbers beyond 64 bits do not count as
    such. -/
def truthOfInt (i : Int) : Except FlawKind Bool :=
  if i < -wordLimit || wordLimit ≤ i then .error .notBoolean
  else if i = 0 then .ok false
  else if i = 1 then .ok true
  else .error .unknownBoolean

/-- The truth value that a value stands for. -/
def truth : Value → Except FlawKind Bool
  | boolean b => .ok b
  | text t =>
    let word := t.map Char.toLower
    if yesWords.contains word then .ok true
    else if noWords.contains word then .ok false
    else .error .unknownBoolean
  | integer i => truthOfInt i
  | size n => truthOfInt n
  | float x =>
    match x.toInt? with
    | some i => truthOfInt i
    | none => .error .notBoolean
  | _ => .error .notBoolean

end Value

namespace Preset

/-- A part of the data that must be a text. -/
def textPart (entries : List (Text × Value)) (name : String) (default : Option Text) :
    Except Flaw Text :=
  match entries.lookup name.toList with
  | none =>
    match default with
    | some t => .ok t
    | none => .error ⟨[name.toList], .missing⟩
  | some (.text t) => .ok t
  | some _ => .error ⟨[name.toList], .notText⟩

/-- The name, which must not be empty. -/
def namePart (entries : List (Text × Value)) : Except Flaw Text := do
  let name ← textPart entries "name" none
  if name.isEmpty then throw ⟨["name".toList], .emptyName⟩ else return name

/-- The part that says whether the preset is global. -/
def globalPart (entries : List (Text × Value)) : Except Flaw Bool :=
  match entries.lookup "is_global".toList with
  | none => .ok false
  | some value =>
    match value.truth with
    | .ok b => .ok b
    | .error kind => .error ⟨["is_global".toList], kind⟩

/-- Whether the data has a view that counts. -/
def hasView (entries : List (Text × Value)) : Bool :=
  (entries.lookup "view_type".toList).any fun view => !view.isVoid

/-- The data of a preset without a view, made global. -/
def withGlobalView (entries : List (Text × Value)) : List (Text × Value) :=
  Json.put "is_global".toList (.boolean true)
    (Json.put "view_type".toList (.text globalView) entries)

/-- The flaw of a part, if it has one. -/
def flawOf {α : Type} : Except Flaw α → List Flaw
  | .ok _ => []
  | .error flaw => [flaw]

/-- The preset that an object holds, or all its flaws in the order of the parts. -/
def ofEntries (entries : List (Text × Value)) : Except (List Flaw) Preset :=
  let entries := if hasView entries then entries else withGlobalView entries
  let name := namePart entries
  let description := textPart entries "description" (some [])
  let view := textPart entries "view_type" (some globalView)
  let filter := textPart entries "filter_str" none
  let isGlobal := globalPart entries
  match name, description, view, filter, isGlobal with
  | .ok name, .ok description, .ok view, .ok filter, .ok isGlobal =>
    .ok ⟨name, description, view, filter, isGlobal⟩
  | _, _, _, _, _ =>
    .error (flawOf name ++ flawOf description ++ flawOf view ++ flawOf filter ++ flawOf isGlobal)

/-- The preset that a value holds. -/
def ofValue : Value → Except (List Flaw) Preset
  | .dict entries => ofEntries entries
  | _ => .error [⟨[], .notObject⟩]

/-- A refusal of a preset file. -/
def refuse {α : Type} (wording : String) (path : Text) (cause : Cause) : Except FileFault α :=
  .error (.refused ⟨wording.toList ++ path, some cause⟩)

/-- The presets of a list. -/
def ofList : Value → Option (List Preset)
  | .list items => items.mapM fun item => (ofValue item).toOption
  | _ => none

/-- Reads the presets of a file. -/
def load (files : Files) (path : Text) : Except FileFault (List Preset) :=
  match (files path).read with
  | .error .nullInPath => .error (.broken .nullInPath)
  | .error cause => refuse "Cannot read preset file " path cause
  | .ok content =>
    match decode? content with
    | none => .error (.broken .notText)
    | some text =>
      match Json.read text with
      | .error .malformed => refuse "Invalid JSON in preset file " path .malformedJson
      | .error .tooManyDigits => .error (.broken .tooManyDigits)
      | .error .nestedTooDeeply => .error (.broken .nestedTooDeeply)
      | .ok value =>
        match ofList value with
        | some presets => .ok presets
        | none => refuse "Invalid presets in " path .wrongPresets

end Preset

end RecordFilter
