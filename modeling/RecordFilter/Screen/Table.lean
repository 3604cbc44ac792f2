import RecordFilter.Number.Rounding
import RecordFilter.Screen.Wrap

/-!
Tables on a screen.

A column is as wide as its widest cell and has a blank on either side. When the table is wider than
the screen, the widest columns are made narrower, and if that is not enough all columns are.
-/

namespace RecordFilter.Screen

/-- A table: the heads of its columns, and rows with one cell for each column. -/
structure Table where
  heads : List Text
  rows : List (List Text)

/-- The cells of the longest line of a text. -/
def longestLine (text : Text) : Nat :=
  (Text.lines text).foldl (fun widest line => max widest (cells line)) 0

/-- The width of a column with its two blanks, as far as a limit allows. -/
def columnWidth (limit : Int) (texts : List Text) : Nat :=
  if limit < 3 then limit.toNat
  else min limit.toNat (2 + texts.foldl (fun widest text => max widest (longestLine text)) 0)

/-- A width that is to be reduced by an amount, with the most that it can be reduced by. A width
    that stays as it is has none. -/
structure Reducible where
  width : Nat
  most : Nat

/-- Takes an amount off `count` widths in equal parts, from the first to the last. -/
def reduceFrom (amount count : Nat) : List Reducible → List Nat
  | [] => []
  | item :: items =>
    if item.most = 0 || count = 0 then item.width :: reduceFrom amount count items
    else
      let part := min item.most (roundHalfEven amount count)
      (item.width - part) :: reduceFrom (amount - part) (count - 1) items

/-- Takes an amount off widths in equal parts. -/
def reduce (amount : Nat) (items : List Reducible) : List Nat :=
  reduceFrom amount (items.countP fun item => item.most ≠ 0) items

/-- The total of widths. -/
def totalWidth (widths : List Nat) : Nat :=
  widths.foldl (· + ·) 0

/-- How far a total of widths is above the limit. -/
def excess (limit : Int) (widths : List Nat) : Nat :=
  (totalWidth widths - limit).toNat

/-- Makes the widest columns narrower, at most `steps` times, each time not below the next widest
    ones. -/
def narrowWidest (limit : Int) : Nat → List Nat → List Nat
  | 0, widths => widths
  | steps + 1, widths =>
    let surplus := excess limit widths
    let widest := widths.foldl max 0
    if surplus = 0 || widest = 0 then widths
    else
      let second := (widths.filter (· ≠ widest)).foldl max 0
      let most := min surplus (widest - second)
      narrowWidest limit steps
        (reduce surplus (widths.map fun width => ⟨width, if width = widest then most else 0⟩))

/-- Makes columns narrower, the widest ones first. -/
def narrow (limit : Int) (widths : List Nat) : List Nat :=
  let widths := narrowWidest limit (totalWidth widths) widths
  let surplus := excess limit widths
  if surplus = 0 then widths else reduce surplus (widths.map fun width => ⟨width, width⟩)

namespace Table

/-- The texts of the columns, from the head down. -/
def columns (table : Table) : List (List Text) :=
  table.heads.zipIdx.map fun (head, i) => head :: table.rows.map fun row => row.getD i []

/-- The widths of the columns on a screen of some width. -/
def widths (screen : Nat) (table : Table) : List Nat :=
  let limit : Int := screen - (table.heads.length + 1 : Nat)
  let columns := table.columns
  let widths := columns.map fun texts => max 1 (columnWidth limit texts)
  if excess limit widths = 0 then widths
  else (narrow limit widths).zipWith (fun (width : Nat) texts => columnWidth width texts) columns

/-- The lines of a cell. -/
def cellLines (width : Nat) (text : Text) : List Text :=
  if width < 3 then []
  else (wrap .shorten (width - 2) text).map fun line => ' ' :: fit (width - 2) line ++ [' ']

/-- A line of dashes, with the corners and crossings that it needs. -/
def rule (left dash cross right : Char) (widths : List Nat) : Text :=
  left :: Text.join [cross] (widths.map fun width => List.replicate width dash) ++ [right]

/-- The cells of a row filled up to one height, from above or from below. -/
def levelled (fromBelow : Bool) (height width : Nat) (lines : List Text) : List Text :=
  let blanks := List.replicate (height - lines.length) (List.replicate width ' ')
  if fromBelow then blanks ++ lines else lines ++ blanks

/-- The lines of a row between bars. -/
def rowLines (bar : Char) (fromBelow : Bool) (widths : List Nat) (row : List Text) : List Text :=
  let cells := widths.zipWith cellLines row
  let height := cells.foldl (fun height lines => max height lines.length) 1
  let cells := widths.zipWith (levelled fromBelow height) cells
  (List.range height).map fun i =>
    bar :: Text.join [bar] (cells.map fun lines => lines.getD i []) ++ [bar]

/-- The lines of the table. A table without columns is an empty line. -/
def lines (screen : Nat) (table : Table) : List Text :=
  if table.heads.isEmpty then [[]]
  else
    let widths := table.widths screen
    rule '┏' '━' '┳' '┓' widths :: rowLines '┃' true widths table.heads ++
      rule '┡' '━' '╇' '┩' widths :: table.rows.flatMap (rowLines '│' false widths) ++
      [rule '└' '─' '┴' '┘' widths]

end Table

/-- A part of what is shown. -/
inductive Block
  | text (text : Text)
  | table (table : Table)

/-- The lines of a part on a screen of some width. -/
def Block.lines (screen : Nat) : Block → List Text
  | text t => wrap .fold screen (withoutControls t)
  | table t => (t.lines screen).map (cutOff .fold screen)

/-- The parts as they are printed, each line with its end. -/
def print (screen : Nat) (blocks : List Block) : Text :=
  (blocks.flatMap (Block.lines screen)).flatMap fun line => line ++ ['\n']

end RecordFilter.Screen
