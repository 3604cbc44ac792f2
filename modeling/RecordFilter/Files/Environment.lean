import RecordFilter.Text.Basic

/-!
Variables of the environment, and references to them in a text.

A reference is a dollar sign with a name of letters, digits and low lines, or with a name in braces.
One to a variable that is not set stays as it is, and what a variable holds is not searched again.
-/

namespace RecordFilter

/-- The variables that are set. -/
abbrev Environment := List (Text × Text)

namespace Environment

/-- The characters of a name without braces. -/
def isNameChar (c : Char) : Bool :=
  c.isAlphanum || c = '_'

/-- The name of a reference, given the characters after its dollar sign, and the number of
    characters it takes. -/
def reference? (text : Text) : Option (Text × Nat) :=
  match text with
  | '\x7b' :: rest =>
    let name := rest.takeWhile (· ≠ '\x7d')
    if name.length < rest.length then some (name, name.length + 2) else none
  | _ =>
    let name := text.takeWhile isNameChar
    if name.isEmpty then none else some (name, name.length)

/-- The scan for references, with `skip` characters of the last one still to be passed over. -/
def expandFrom (environment : Environment) : Nat → Text → Text
  | _, [] => []
  | skip + 1, _ :: rest => expandFrom environment skip rest
  | 0, c :: rest =>
    if c = '$' then
      match reference? rest with
      | none => c :: expandFrom environment 0 rest
      | some (name, length) =>
        match environment.lookup name with
        | some value => value ++ expandFrom environment length rest
        | none => c :: rest.take length ++ expandFrom environment length rest
    else c :: expandFrom environment 0 rest

/-- The text with its references replaced. -/
def expand (environment : Environment) (text : Text) : Text :=
  expandFrom environment 0 text

end Environment

end RecordFilter
