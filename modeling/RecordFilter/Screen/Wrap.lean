import RecordFilter.Screen.Cluster
import RecordFilter.Text.Blank

/-!
The lines of a text on a screen of some width.

A line is broken before a word that does not fit any more. A word that is longer than a whole line
goes on in the next one, or stands in a line of its own and is cut off.
-/

namespace RecordFilter.Screen

/-- What is done with a word that is longer than a line. -/
inductive Overflow
  /-- The word goes on in the next line. -/
  | fold
  /-- A sign of omission takes the place of what does not fit. -/
  | shorten
  deriving DecidableEq

/-- The text without the control characters that a screen acts on. Line feeds and tabulators
    remain. -/
def withoutControls (text : Text) : Text :=
  text.filter fun c => !(c = '\x07' || c = '\x08' || c = '\x0b' || c = '\x0c' || c = '\r')

/-- The words of a text without blanks at its beginning, each with the blanks after it. -/
def wordsFrom : Text → List Text
  | [] => []
  | c :: rest =>
    match wordsFrom rest with
    | [] => [[c]]
    | word :: words =>
      if Text.isBlank c && word.head?.any (!Text.isBlank ·) then [c] :: word :: words
      else (c :: word) :: words

/-- The words of a text, each with the blanks after it. Blanks at the beginning belong to the first
    word. -/
def words (text : Text) : List Text :=
  match wordsFrom (text.dropWhile Text.isBlank) with
  | [] => if text.isEmpty then [] else [text]
  | word :: words => (text.takeWhile Text.isBlank ++ word) :: words

/-- A line in front of others, unless it is empty. -/
def lineBefore (line : Text) (lines : List Text) : List Text :=
  if line.isEmpty then lines else line :: lines

/-- The lines of words in a row, with the current line and the cells it takes up. -/
def place (overflow : Overflow) (width : Nat) (line : Text) (used : Nat) :
    List Text → List Text
  | [] => [line]
  | word :: words =>
    let size := cells (Text.dropEnd Text.isBlank word)
    if used + size ≤ width then
      place overflow width (line ++ word) (used + cells word) words
    else if size ≤ width || overflow = .shorten then
      lineBefore line (place overflow width word (cells word) words)
    else
      let pieces := chop width [] 0 (clusters word)
      let pieces := if line.isEmpty then pieces.dropWhile List.isEmpty else pieces
      let last := pieces.getLastD []
      lineBefore line (pieces.dropLast ++ place overflow width last (cells last) words)

/-- The parts of a text between tabulators, with blanks up to the next multiple of eight cells for
    each tabulator. -/
def expandTabs (used : Nat) : List Text → Text
  | [] => []
  | [last] => last
  | part :: parts =>
    let part := part ++ [' ']
    let reached := used + cells part
    let gap := (8 - reached % 8) % 8
    part ++ List.replicate gap ' ' ++ expandTabs (reached + gap) parts

/-- The line without blanks at its end, as far as it has more characters than the width. -/
def trimExcess (width : Nat) (line : Text) : Text :=
  let blanks := line.length - (Text.dropEnd Text.isBlank line).length
  line.take (line.length - min blanks (line.length - width))

/-- The line, cut off if it does not fit the width. -/
def cutOff (overflow : Overflow) (width : Nat) (line : Text) : Text :=
  if cells line ≤ width then line
  else
    match overflow with
    | .fold => fit width line
    | .shorten => fit (width - 1) line ++ ['…']

/-- The lines of a text on a screen. -/
def wrap (overflow : Overflow) (width : Nat) (text : Text) : List Text :=
  (Text.splitOn ['\n'] text).flatMap fun line =>
    (place overflow width [] 0 (words (expandTabs 0 (Text.splitOn ['\t'] line)))).map fun line =>
      cutOff overflow width (trimExcess width line)

end RecordFilter.Screen
