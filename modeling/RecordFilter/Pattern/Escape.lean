import RecordFilter.Pattern.Source
import RecordFilter.Text.CharName

/-!
Escapes: what a backslash and the character after it stand for.

Most escapes mean the same everywhere. Inside a character set digits after a backslash are an
octal code, and outside of one they may also name a group.
-/

namespace RecordFilter.Pattern

/-- The control character, or the backslash, that a letter stands for. -/
def controlPoint? : Char → Option Nat
  | 'a' => some 7
  | 'b' => some 8
  | 't' => some 9
  | 'n' => some 10
  | 'v' => some 11
  | 'f' => some 12
  | 'r' => some 13
  | '\\' => some 92
  | _ => none

/-- The class that a letter stands for, and whether the letter asks for all but the class. -/
def classOf? : Char → Option (CharClass × Bool)
  | 'd' => some (.digit, false)
  | 'D' => some (.digit, true)
  | 's' => some (.space, false)
  | 'S' => some (.space, true)
  | 'w' => some (.word, false)
  | 'W' => some (.word, true)
  | _ => none

/-- The condition on a place that a letter stands for. -/
def positionOf? (plainOnly : Bool) : Char → Option Position
  | 'A' => some (.start false)
  | 'Z' => some .textEnd
  | 'b' => some (.wordEdge false plainOnly)
  | 'B' => some (.wordEdge true plainOnly)
  | _ => none

/-- The digits to the base eight. -/
def isOctalDigit (c : Char) : Bool :=
  '0' ≤ c && c ≤ '7'

namespace Reader

/-- Fails at the beginning of an escape, which is shown after the wording. -/
def failEscape {α : Type} (wording : String) (escape : Text) : Reader α :=
  fail (wording.toList ++ escape) escape.length

/-- Reads a code point of `count` digits to the base sixteen. -/
def readHex (letter : Char) (count : Nat) : Reader Nat := do
  let digits ← takeUpTo Text.isHexDigit count
  let escape := '\\' :: letter :: digits
  if digits.length < count then failEscape "incomplete escape " escape
  else
    let point := Text.ofBase 16 digits
    if 0x10FFFF < point then failEscape "bad escape " escape else return point

/-- Reads a name in braces. -/
def readNamed : Reader Nat := do
  if ← accept '{' then
    let name ← takeName '}' "character name".toList
    match Text.pointOfName? name with
    | some point => return point
    | none => fail ("undefined character name ".toList ++ Text.quoted name) (name.length + 4)
  else fail "missing \x7b".toList 0

/-- Reads a code point given by its number or by its name, if the letter announces one. -/
def readCoded? : Char → Reader (Option Nat)
  | 'x' => some <$> readHex 'x' 2
  | 'u' => some <$> readHex 'u' 4
  | 'U' => some <$> readHex 'U' 8
  | 'N' => some <$> readNamed
  | _ => return none

/-- The value of an octal escape, which is a code of one byte. -/
def octalPoint (digits : Text) : Reader Nat := do
  let point := Text.ofBase 8 digits
  if 0o377 < point then
    fail ("octal escape value ".toList ++ '\\' :: digits ++
      " outside of range 0-0o377".toList) (digits.length + 1)
  else return point

/-- The character of an escape without a meaning of its own, which must not be a letter or digit. -/
def escapedSign (c : Char) : Reader Nat := do
  if c.isAlphanum then failEscape "bad escape " ['\\', c] else return c.toNat

/-- Reads an escape inside a character set. -/
def readSetEscape (c : Char) : Reader SetItem := do
  if let some point := controlPoint? c then return .point point
  else if let some (cls, negated) := classOf? c then return .members cls negated
  else if let some point := ← readCoded? c then return .point point
  else if isOctalDigit c then
    let more ← takeUpTo isOctalDigit 2
    return .point (← octalPoint (c :: more))
  else return .point (← escapedSign c)

/-- The text of a group that is closed. -/
def readBack (number back : Nat) : Reader Node := do
  match ← closedWidth? number with
  | none => fail "cannot refer to an open group".toList back
  | some width =>
    checkBehind number
    return .back number width (← get).flags.fold

/-- A group named by its digits. -/
def readGroupNumber (digits : Text) : Reader Node := do
  let number := Text.ofDigits digits
  if number < (← groupCount) then readBack number (digits.length + 1)
  else fail ("invalid group reference ".toList ++ Text.ofNat number) digits.length

/-- A letter, compared in the way that holds at the reading position. -/
def letter (point : Nat) : Reader Node := do
  return .single (.ofLetter false point (← get).flags.fold)

/-- Reads digits after a backslash: three octal digits are a code, one or two digits a group. -/
def readNumbered (c : Char) : Reader Node := do
  match (← takeUpTo Text.isPlainDigit 1) with
  | [d] =>
    if isOctalDigit c && isOctalDigit d then
      match (← takeUpTo isOctalDigit 1) with
      | [e] => letter (← octalPoint [c, d, e])
      | _ => readGroupNumber [c, d]
    else readGroupNumber [c, d]
  | _ => readGroupNumber [c]

/-- Reads an escape outside of character sets. -/
def readEscape (c : Char) : Reader Node := do
  let flags := (← get).flags
  if let some place := positionOf? flags.plainOnly c then return .position place
  else if let some (cls, negated) := classOf? c then
    return .single (.set false [.members cls negated] .exact flags.plainOnly)
  else if let some point := controlPoint? c then letter point
  else if let some point := ← readCoded? c then letter point
  else if c = '0' then
    let more ← takeUpTo isOctalDigit 2
    letter (Text.ofBase 8 more)
  else if Text.isPlainDigit c then readNumbered c
  else letter (← escapedSign c)

end Reader

end RecordFilter.Pattern
