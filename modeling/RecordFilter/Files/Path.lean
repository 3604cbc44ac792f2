import RecordFilter.Text.Basic

/-!
Paths of files, and the home directories that a tilde stands for.

A path is kept without empty parts and without parts that are a single point, so that two spellings
of one place are shown alike.
-/

namespace RecordFilter.Path

/-- The root that a path begins with: one slash, or exactly two, which are kept apart. -/
def root (path : Text) : Text :=
  let slashes := (path.takeWhile (· = '/')).length
  if slashes = 0 then [] else if slashes = 2 then ['/', '/'] else ['/']

/-- The parts of a path that count. -/
def parts (path : Text) : List Text :=
  (Text.splitOn ['/'] path).filter fun part => !part.isEmpty && part ≠ ['.']

/-- The path with a root and parts. -/
def ofParts (root : Text) (parts : List Text) : Text :=
  let path := root ++ Text.join ['/'] parts
  if path.isEmpty then ['.'] else path

/-- The path in its shortest spelling. -/
def normalize (path : Text) : Text :=
  ofParts (root path) (parts path)

/-- The directory that a path lies in. -/
def parent (path : Text) : Text :=
  ofParts (root path) (parts path).dropLast

/-- The path without slashes at its end. -/
def dropSlashes (path : Text) : Text :=
  Text.dropEnd (· = '/') path

/-- The home directory that a first part stands for, if it begins with a tilde. The one of a user
    with a name is looked up with `homeOf`, and one's own is `home`. -/
def homeFor (home : Option Text) (homeOf : Text → Option Text) (name : Text) : Option Text :=
  let dir := if name.isEmpty then home else homeOf name
  dir.map fun dir =>
    let dir := dropSlashes dir
    if dir.isEmpty then ['/'] else dir

/-- The path with a tilde at its beginning replaced. There is none if the home directory is not
    known. -/
def expandHome? (home : Option Text) (homeOf : Text → Option Text) (path : Text) : Option Text :=
  match root path, parts path with
  | [], ('~' :: name) :: rest =>
    match homeFor home homeOf name with
    | some ('~' :: _) => none
    | some dir => some (ofParts (Path.root dir) (Path.parts dir ++ rest))
    | none => none
  | root, parts => some (ofParts root parts)

/-- The home directory of a user in a list of accounts, which has a line for each with seven parts
    between colons. -/
def homeIn (accounts : Text) (name : Text) : Option Text :=
  (Text.splitOn ['\n'] accounts).findSome? fun line =>
    match Text.splitOn [':'] line with
    | [user, _, _, _, _, home, _] => if user = name then some home else none
    | _ => none

end RecordFilter.Path
