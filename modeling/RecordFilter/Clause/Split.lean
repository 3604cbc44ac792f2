import RecordFilter.Clause.Operator

/-!
Splitting the text of a filter into clauses.

Clauses are separated by spaces outside of quotes and parentheses. A backslash takes the next
character for itself. The words `in` and `not in` would be separated from their clauses, so they
are replaced by marks without a space before the text is split, and put back afterwards.
-/

namespace RecordFilter.Clause

/-- What encloses the place that a scan has reached. -/
structure Cursor where
  /-- The quote that is open. -/
  quote : Option Char := none
  /-- The number of open parentheses. -/
  depth : Nat := 0
  /-- Whether the character before was a backslash that counts. -/
  escaped : Bool := false
  deriving DecidableEq

namespace Cursor

/-- Whether the character is a quotation mark. -/
def isQuote (c : Char) : Bool :=
  c = '\'' || c = '"'

/-- The place after a character. A closing parenthesis without an opening one has no effect. -/
def next (cursor : Cursor) (c : Char) : Cursor :=
  if cursor.escaped then { cursor with escaped := false }
  else if c = '\\' then { cursor with escaped := true }
  else
    match cursor.quote with
    | some quote => if c = quote then { cursor with quote := none } else cursor
    | none =>
      if isQuote c then { cursor with quote := some c }
      else if c = '(' then { cursor with depth := cursor.depth + 1 }
      else if c = ')' then { cursor with depth := cursor.depth - 1 }
      else cursor

/-- Whether the place is outside of quotes and parentheses and not after a backslash. -/
def isOpen (cursor : Cursor) : Bool :=
  !cursor.escaped && cursor.quote.isNone && cursor.depth = 0

/-- Whether a character separates words at this place. -/
def separates (cursor : Cursor) (c : Char) : Bool :=
  c = ' ' && cursor.isOpen

end Cursor

/-- The word as the only item, unless it is empty. -/
def wordOf (word : Text) : List Text :=
  if word.isEmpty then [] else [word]

/-- The words from a place on; `current` is the word there so far, in reverse. -/
def wordsFrom (cursor : Cursor) (current : Text) : Text → List Text
  | [] => wordOf current.reverse
  | c :: rest =>
    if cursor.separates c then wordOf current.reverse ++ wordsFrom cursor [] rest
    else wordsFrom (cursor.next c) (c :: current) rest

/-- The words of a text: what is between separating spaces, where that is not empty. -/
def words (text : Text) : List Text :=
  wordsFrom {} [] text

/-- The mark that stands for `not in` while a text is split. -/
def notInMark : Text := "__NOT_IN__".toList

/-- The mark that stands for `in` while a text is split. -/
def inMark : Text := "__IN__".toList

/-- The text with marks for the list operators. The longer operator contains the shorter one, so it
    is replaced first. -/
def protect (text : Text) : Text :=
  Text.replaceAll Operator.isIn.token inMark (Text.replaceAll Operator.notIn.token notInMark text)

/-- The text with the list operators put back. -/
def unprotect (text : Text) : Text :=
  Text.replaceAll inMark Operator.isIn.token (Text.replaceAll notInMark Operator.notIn.token text)

/-- The clauses of a filter's text. -/
def split (text : Text) : List Text :=
  (words (protect text)).map unprotect

end RecordFilter.Clause
