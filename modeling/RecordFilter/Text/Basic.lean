/-!
Text is the list of its characters, so that every reader and writer below is a recursion on data.

The module holds the searches that the filter language is built on: the first occurrence of a
pattern (`cut?`), replacement of every occurrence from the left (`replaceAll`), and trimming.
-/

namespace RecordFilter

/-- Text as the list of its characters. -/
abbrev Text := List Char

namespace Text

/-- The text before and after the first occurrence of `pattern`, if it occurs. -/
def cut? (pattern : Text) : Text → Option (Text × Text)
  | [] => if pattern.isEmpty then some ([], []) else none
  | c :: rest =>
    if pattern.isPrefixOf (c :: rest) then some ([], (c :: rest).drop pattern.length)
    else (cut? pattern rest).map fun (before, after) => (c :: before, after)

/-- Whether `pattern` occurs in `text`. -/
def occursIn (pattern text : Text) : Bool :=
  (cut? pattern text).isSome

/-- What follows `start` in a text that begins with it. -/
def after? (start text : Text) : Option Text :=
  if start.isPrefixOf text then some (text.drop start.length) else none

/-- The replacement scan, with `skip` characters of the last occurrence still to be passed over. -/
def replaceFrom (pattern replacement : Text) : Nat → Text → Text
  | _, [] => []
  | skip + 1, _ :: rest => replaceFrom pattern replacement skip rest
  | 0, c :: rest =>
    if pattern.isPrefixOf (c :: rest) then
      replacement ++ replaceFrom pattern replacement (pattern.length - 1) rest
    else c :: replaceFrom pattern replacement 0 rest

/-- Every occurrence of a non-empty `pattern` replaced, leftmost first and without overlap. -/
def replaceAll (pattern replacement text : Text) : Text :=
  replaceFrom pattern replacement 0 text

/-- The pieces between the occurrences of a non-empty `pattern`, leftmost first. -/
def splitFrom (pattern : Text) : Nat → Text → List Text
  | _, [] => [[]]
  | skip + 1, _ :: rest => splitFrom pattern skip rest
  | 0, c :: rest =>
    if pattern.isPrefixOf (c :: rest) then [] :: splitFrom pattern (pattern.length - 1) rest
    else
      match splitFrom pattern 0 rest with
      | [] => [[c]]
      | piece :: pieces => (c :: piece) :: pieces

/-- The pieces of `text` between the occurrences of a non-empty `pattern`. -/
def splitOn (pattern text : Text) : List Text :=
  splitFrom pattern 0 text

/-- Drops the characters with `p` from the end. -/
def dropEnd (p : Char → Bool) (text : Text) : Text :=
  text.foldr (fun c kept => if kept.isEmpty && p c then [] else c :: kept) []

/-- Drops the characters with `p` from both ends. -/
def trimBy (p : Char → Bool) (text : Text) : Text :=
  dropEnd p (text.dropWhile p)

/-- The texts in order, with `separator` between each two. -/
def join (separator : Text) : List Text → Text
  | [] => []
  | [text] => text
  | text :: rest => text ++ separator ++ join separator rest

/-- Extends `text` on the left to `width` characters. -/
def padStart (width : Nat) (fill : Char) (text : Text) : Text :=
  List.replicate (width - text.length) fill ++ text

/-- Extends `text` on the right to `width` characters. -/
def padEnd (width : Nat) (fill : Char) (text : Text) : Text :=
  text ++ List.replicate (width - text.length) fill

/-- The order of texts by code point, a proper beginning first. -/
def before : Text → Text → Bool
  | _, [] => false
  | [], _ :: _ => true
  | a :: as, b :: bs => if a = b then before as bs else a.toNat < b.toNat

end Text

end RecordFilter
