import RecordFilter.Screen.Emoji
import RecordFilter.Screen.Style
import RecordFilter.Screen.Wrap

/-!
Marked up texts: tags in square brackets set the style of what follows, up to a closing tag.

Only the text without its tags is shown here. A closing tag that does not close anything makes the
text unreadable. Backslashes before a tag stand for half as many, and after an odd number of them
the tag is ordinary text.
-/

namespace RecordFilter.Screen

/-- A part of a marked up text. -/
inductive MarkupPart
  /-- A character outside of tags. -/
  | char (c : Char)
  /-- Text that comes from a tag with backslashes before it. -/
  | literal (text : Text)
  /-- The inside of a tag. -/
  | tag (text : Text)

/-- Whether a tag may begin with the character. -/
def isTagStart (c : Char) : Bool :=
  ('a' ≤ c && c ≤ 'z') || c = '#' || c = '/' || c = '@'

/-- A tag at the beginning of a text: the number of backslashes before it, and its inside. -/
def tag? (text : Text) : Option (Nat × Text) :=
  let slashes := (text.takeWhile (· = '\\')).length
  match text.drop slashes with
  | '[' :: first :: rest =>
    let inside := rest.takeWhile fun c => c ≠ '[' && c ≠ ']'
    if isTagStart first && (rest.drop inside.length).head? = some ']' then
      some (slashes, first :: inside)
    else none
  | _ => none

/-- The parts that a tag with backslashes before it stands for. -/
def tagParts (slashes : Nat) (inside : Text) : List MarkupPart :=
  .literal (List.replicate (slashes / 2) '\\') ::
    [if slashes % 2 = 1 then .literal ('[' :: inside ++ [']']) else .tag inside]

/-- The scan for tags, with `skip` characters of the last one still to be passed over. -/
def partsFrom : Nat → Text → List MarkupPart
  | _, [] => []
  | skip + 1, _ :: rest => partsFrom skip rest
  | 0, c :: rest =>
    match tag? (c :: rest) with
    | none => .char c :: partsFrom 0 rest
    | some (slashes, inside) =>
      tagParts slashes inside ++ partsFrom (slashes + inside.length + 1) rest

/-- Why a marked up text cannot be read. -/
inductive MarkupFault
  /-- A closing tag closes a tag that is not open. -/
  | unmatchedTag
  /-- A tag names a colour that lacks a share. -/
  | noShare
  deriving DecidableEq

/-- The name of a tag, or the fault of the text that it stands in. -/
def tagNameIn (text : Text) : Except MarkupFault Text :=
  (tagName text).mapError fun _ => .noShare

/-- The open tags after a tag, the last one first. -/
def afterTag (open_ : List Text) (inside : Text) : Except MarkupFault (List Text) :=
  match inside.takeWhile (· ≠ '=') with
  | '/' :: name =>
    if Text.isBlankText name then
      match open_ with
      | [] => .error .unmatchedTag
      | _ :: rest => .ok rest
    else do
      let name ← tagNameIn name
      if open_.contains name then return open_.erase name else throw .unmatchedTag
  | name => (tagNameIn name).map (· :: open_)

/-- A run of characters as it is shown. A bracket that begins no tag may have a backslash before it,
    which is not shown. -/
def shownRun (run : Text) : Text :=
  withoutControls (withEmojis (Text.replaceAll ['\\', '['] ['['] run))

/-- The shown text of parts, with the open tags and the characters of the current run. -/
def shownFrom (open_ : List Text) (run : Text) : List MarkupPart → Except MarkupFault Text
  | [] => .ok (shownRun run)
  | .char c :: parts => shownFrom open_ (run ++ [c]) parts
  | .literal text :: parts => (shownFrom open_ [] parts).map fun shown =>
      shownRun run ++ shownRun text ++ shown
  | .tag inside :: parts => do
    let open_ ← afterTag open_ inside
    return shownRun run ++ (← shownFrom open_ [] parts)

/-- The text without its tags. -/
def withoutTags (text : Text) : Except MarkupFault Text :=
  shownFrom [] [] (partsFrom 0 text)

end RecordFilter.Screen
