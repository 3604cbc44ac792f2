import RecordFilter.Text.Basic

/-!
White space and line boundaries of Unicode text.

Blanks are the characters that separate words in any script, together with the four information
separators U+001C to U+001F. Some of them also end a line.
-/

namespace RecordFilter.Text

/-- White space: the separators and the control characters that act as such. -/
def isBlank (c : Char) : Bool :=
  let n := c.toNat
  (9 ≤ n && n ≤ 13) || (28 ≤ n && n ≤ 32) || n == 0x85 || n == 0xA0 || n == 0x1680 ||
    (0x2000 ≤ n && n ≤ 0x200A) || n == 0x2028 || n == 0x2029 || n == 0x202F || n == 0x205F ||
    n == 0x3000

/-- The characters that end a line. -/
def isLineBreak (c : Char) : Bool :=
  let n := c.toNat
  (10 ≤ n && n ≤ 13) || (28 ≤ n && n ≤ 30) || n == 0x85 || n == 0x2028 || n == 0x2029

/-- Drops blanks from both ends. -/
def trim (text : Text) : Text :=
  trimBy isBlank text

/-- Whether nothing but blanks is in the text. -/
def isBlankText (text : Text) : Bool :=
  text.all isBlank

/-- The words of a text: what is between its blanks. -/
def words (text : Text) : List Text :=
  (splitOn [' '] (text.map fun c => if isBlank c then ' ' else c)).filter (!·.isEmpty)

/-- The line scan, with the characters of the current line in reverse. -/
def linesFrom (current : Text) : Text → List Text
  | [] => if current.isEmpty then [] else [current.reverse]
  | '\r' :: '\n' :: rest => current.reverse :: linesFrom [] rest
  | c :: rest =>
    if isLineBreak c then current.reverse :: linesFrom [] rest
    else linesFrom (c :: current) rest

/-- The lines of a text, without their ends. A carriage return and a line feed end one line
    together, and what follows the last end counts only if it is not empty. -/
def lines (text : Text) : List Text :=
  linesFrom [] text

end RecordFilter.Text
