import RecordFilter.Pattern.Fold
import RecordFilter.Text.Alphanumeric
import RecordFilter.Text.Blank
import RecordFilter.Text.Digit

/-!
The syntax of patterns: what a regular expression is made of once its text has been read.

Letters and classes carry the way in which they compare, so that a node means the same wherever it
stands. A group that captures has a number, counted from one in the order of opening parentheses.
-/

namespace RecordFilter.Pattern

/-- A class of characters. -/
inductive CharClass
  | digit | space | word
  deriving DecidableEq

/-- The characters from U+0000 to U+007F that are in a class. -/
def CharClass.holdsPlain (cls : CharClass) (point : Nat) : Bool :=
  let c := Char.ofNat point
  match cls with
  | digit => Text.isPlainDigit c
  | space => (9 ≤ point && point ≤ 13) || point == 32
  | word => point < 128 && (c.isAlphanum || c == '_')

/-- The characters of any script that are in a class. -/
def CharClass.holdsUnicode (cls : CharClass) (point : Nat) : Bool :=
  let c := Char.ofNat point
  match cls with
  | digit => Text.isDecimalDigit c
  | space => Text.isBlank c
  | word => Text.isAlphanumeric c || c == '_'

/-- Whether a code point is in a class, of plain characters only or of all scripts. -/
def CharClass.holds (cls : CharClass) (plainOnly : Bool) (point : Nat) : Bool :=
  if plainOnly then cls.holdsPlain point else cls.holdsUnicode point

/-- A member of a character set. -/
inductive SetItem
  | point (point : Nat)
  | range (low high : Nat)
  | members (cls : CharClass) (negated : Bool)
  deriving DecidableEq

/-- What a single character is tested against. -/
inductive Single
  /-- Any character, or any but a line feed. -/
  | any (lineFeed : Bool)
  | letter (negated : Bool) (point : Nat) (fold : Fold)
  | set (negated : Bool) (items : List SetItem) (fold : Fold) (plainOnly : Bool)
  deriving DecidableEq

/-- The test for a letter. One that has no other case is compared as it stands. -/
def Single.ofLetter (negated : Bool) (point : Nat) (fold : Fold) : Single :=
  letter negated point (if fold.isCased point then fold else .exact)

/-- The letter of a test that is passed by this letter alone. -/
def Single.exactLetter? : Single → Option Nat
  | letter false point .exact => some point
  | _ => none

/-- A condition on the place between two characters. -/
inductive Position
  /-- The beginning of the text, or of a line. -/
  | start (lines : Bool)
  /-- The end of the text or before a line feed at its end, or the end of a line. -/
  | stop (lines : Bool)
  /-- The very end of the text. -/
  | textEnd
  /-- Between a word character and another one, or not there. -/
  | wordEdge (negated : Bool) (plainOnly : Bool)
  deriving DecidableEq

/-- How many characters a part can match. Widths from `2 ^ 64` on count as one. -/
structure Width where
  low : Nat
  high : Nat
  deriving DecidableEq

/-- The width that stands for all that are greater. -/
def widthLimit : Nat := Nat.pow 2 64

/-- The width within the limit. -/
def Width.clamp (w : Width) : Width :=
  ⟨min w.low widthLimit, min w.high widthLimit⟩

/-- How a repetition chooses the number of its turns. -/
inductive Greed
  /-- As many as possible, giving back turns if the rest does not match. -/
  | greedy
  /-- As few as possible. -/
  | lazy
  /-- As many as possible, giving none back. -/
  | possessive
  deriving DecidableEq

/-- A pattern. -/
inductive Node
  | empty
  | single (test : Single)
  | position (place : Position)
  | sequence (first second : Node)
  /-- One of two alternatives. The second may itself be a pair of the remaining alternatives. -/
  | either (first second : Node)
  /-- A group in parentheses; one that captures has a number. -/
  | group (number : Option Nat) (body : Node)
  /-- A part with flags of its own. -/
  | scope (body : Node)
  /-- A group that is left by its first match only. -/
  | atomic (body : Node)
  | repetition (greed : Greed) (least : Nat) (most : Option Nat) (body : Node)
  /-- The text that a group has captured. -/
  | back (number : Nat) (width : Width) (fold : Fold)
  /-- One of two patterns, by whether a group has captured. -/
  | choice (number : Nat) (yes no : Node)
  /-- A condition on the text ahead, or on the text behind. -/
  | look (behind negated : Bool) (body : Node)

/-- The repetition bound that stands for no bound. -/
def repeatLimit : Nat := 4294967295

namespace Node

/-- How many characters the pattern can match. -/
def width : Node → Width
  | empty | position _ | look .. => ⟨0, 0⟩
  | single _ => ⟨1, 1⟩
  | sequence first second =>
    let a := first.width
    let b := second.width
    Width.clamp ⟨a.low + b.low, a.high + b.high⟩
  | either first second =>
    let a := first.width
    let b := second.width
    ⟨min a.low b.low, max a.high b.high⟩
  | group _ body | scope body | atomic body => body.width
  | repetition _ least most body =>
    let w := body.width
    match most with
    | some most => Width.clamp ⟨w.low * least, w.high * most⟩
    | none => Width.clamp ⟨w.low * least, if w.high = 0 then 0 else widthLimit⟩
  | back _ width _ => width
  | choice _ yes no =>
    let a := yes.width
    let b := no.width
    ⟨min a.low b.low, max a.high b.high⟩

/-- Whether the pattern is a bare condition on a place, which cannot be repeated. -/
def isPosition : Node → Bool
  | position _ => true
  | _ => false

/-- Whether the pattern is a bare repetition, which cannot be repeated again. -/
def isRepetition : Node → Bool
  | repetition .. => true
  | _ => false

/-- The patterns one after the other. -/
def ofItems : List Node → Node
  | [] => empty
  | [item] => item
  | item :: items => sequence item (ofItems items)

/-- The parts that stand one after the other. -/
def items : Node → List Node
  | empty => []
  | sequence first second => first :: second.items
  | node => [node]

/-- What a bare group holds, for whatever else the pattern itself. -/
def content : Node → Node
  | group none body => body
  | node => node

/-- The test of a pattern that is one character wide. -/
def single? : Node → Option Single
  | single test => some test
  | scope body => body.single?
  | _ => none

/-- Whether the pattern is a choice between alternatives. -/
def isEither : Node → Bool
  | either .. => true
  | _ => false

end Node

end RecordFilter.Pattern
