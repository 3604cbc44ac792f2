import RecordFilter.Text.Basic
import RecordFilter.Text.CaseTable

/-!
Letter case of whole texts.

Two rules make case a matter of texts and not of characters: a letter may take several characters
in the other case, and a capital sigma becomes a final sigma at the end of a word.
-/

namespace RecordFilter.Text

/-- The characters of a list of code points. -/
def ofPoints (points : List Nat) : Text :=
  points.map Char.ofNat

/-- The small form of one letter, sigma apart from its place in the word. -/
def lowerChar (c : Char) : Text :=
  if c.toNat < 128 then [c.toLower]
  else if c = '\u0130' then ['i', '\u0307']
  else
    match lowerRuns.findSome? (·.other? c.toNat) with
    | some point => [Char.ofNat point]
    | none => [c]

/-- The capital form of one letter. -/
def upperChar (c : Char) : Text :=
  if c.toNat < 128 then [c.toUpper]
  else
    match upperSequences.lookup c.toNat with
    | some points => ofPoints points
    | none =>
      match upperRuns.findSome? (·.other? c.toNat) with
      | some point => [Char.ofNat point]
      | none => [c]

/-- The form of a letter at the beginning of a title. -/
def titleChar (c : Char) : Text :=
  match titleSequences.lookup c.toNat with
  | some points => ofPoints points
  | none => upperChar c

/-- Whether the nearest letter of a text, marks passed over, has case. -/
def meetsCased (text : Text) : Bool :=
  match text.dropWhile fun c => caseIgnorableRanges.covers c.toNat with
  | [] => false
  | c :: _ => casedRanges.covers c.toNat

/-- A sigma is final after a letter and not before one. -/
def sigma (before after : Text) : Char :=
  if meetsCased before && !meetsCased after then 'ς' else 'σ'

/-- The small form of a text, given the characters before it in reverse. -/
def lowerFrom (before : Text) : Text → Text
  | [] => []
  | c :: rest =>
    (if c = 'Σ' then [sigma before rest] else lowerChar c) ++ lowerFrom (c :: before) rest

/-- The small form of a text. -/
def lower (text : Text) : Text :=
  lowerFrom [] text

/-- The capital form of a text. -/
def upper (text : Text) : Text :=
  text.flatMap upperChar

/-- The text with its first letter as at the beginning of a title and the others small. -/
def capitalize : Text → Text
  | [] => []
  | c :: rest => titleChar c ++ lowerFrom [c] rest

end RecordFilter.Text
