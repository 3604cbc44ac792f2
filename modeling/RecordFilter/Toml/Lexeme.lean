import RecordFilter.Calendar.Date
import RecordFilter.Number.Numeral
import RecordFilter.Text.Digit
import RecordFilter.Toml.Basic

/-!
The smallest parts of a document of settings: comments, names, texts, numbers and times.
-/

namespace RecordFilter.Toml

/-- Fails because the text breaks the rules. -/
def malformed {α : Type} : Except TomlError α := .error .malformed

/-- White space within a line. -/
def isGap (c : Char) : Bool :=
  c = ' ' || c = '\t'

/-- The text without white space at its beginning. -/
def skipGaps (text : Text) : Text :=
  text.dropWhile isGap

/-- The control characters that may not stand in a line. -/
def isIllegal (c : Char) : Bool :=
  (c.toNat < 32 && c ≠ '\t') || c.toNat = 127

/-- The control characters that may not stand in a text of several lines. -/
def isIllegalInLines (c : Char) : Bool :=
  isIllegal c && c ≠ '\n'

/-- The text after a comment, if it begins with one. -/
def skipComment (text : Text) : Except TomlError Text :=
  match text with
  | '#' :: rest =>
    let (comment, after) := rest.span (· ≠ '\n')
    if comment.any isIllegal then malformed else .ok after
  | _ => .ok text

/-- The text after any number of comments, line ends and white space. -/
def skipLines : Nat → Text → Except TomlError Text
  | 0, text => .ok text
  | fuel + 1, text => do
    let rest ← skipComment (text.dropWhile fun c => isGap c || c = '\n')
    if rest.length = text.length then return rest else skipLines fuel rest

/-- The characters of names without quotes. -/
def isBare (c : Char) : Bool :=
  c.isAlphanum || c = '-' || c = '_'

/-- A character given by a code of `count` digits. -/
def readCode (count : Nat) (text : Text) : Except TomlError (Char × Text) :=
  let digits := text.take count
  if digits.length = count ∧ digits.all Text.isHexDigit then
    let code := Text.ofBase 16 digits
    if h : code.isValidChar then .ok (Char.ofNatAux code h, text.drop count) else malformed
  else malformed

/-- The character of an escape without a code. -/
def escaped? : Char → Option Char
  | 'b' => some '\x08'
  | 't' => some '\t'
  | 'n' => some '\n'
  | 'f' => some '\x0c'
  | 'r' => some '\r'
  | '"' => some '"'
  | '\\' => some '\\'
  | _ => none

/-- The text after a backslash at the end of a line, with the blanks that follow. -/
def skipLineEnd (text : Text) : Except TomlError Text :=
  match skipGaps text with
  | [] => .ok []
  | '\n' :: rest => .ok (rest.dropWhile fun c => isGap c || c = '\n')
  | _ => malformed

/-- What an escape stands for, which is nothing for one at the end of a line. -/
def readEscape (lines : Bool) (text : Text) : Except TomlError (Text × Text) :=
  match text with
  | 'u' :: rest => (readCode 4 rest).map fun (c, rest) => ([c], rest)
  | 'U' :: rest => (readCode 8 rest).map fun (c, rest) => ([c], rest)
  | c :: rest =>
    if lines && (isGap c || c = '\n') then (skipLineEnd text).map fun rest => ([], rest)
    else
      match escaped? c with
      | some c => .ok ([c], rest)
      | none => malformed
  | [] => malformed

/-- Reads a text after its opening quotes; `read` holds what came before, in reverse. The fuel
    bounds the number of characters. -/
def readBasic (lines : Bool) : Nat → Text → Text → Except TomlError (Text × Text)
  | 0, _, _ => malformed
  | _ + 1, _, [] => malformed
  | fuel + 1, read, c :: rest =>
    if c = '"' then
      if !lines then .ok (read.reverse, rest)
      else
        match rest with
        | '"' :: '"' :: rest => .ok (read.reverse, rest)
        | _ => readBasic lines fuel (c :: read) rest
    else if c = '\\' then do
      let (part, rest) ← readEscape lines rest
      readBasic lines fuel (part.reverse ++ read) rest
    else if if lines then isIllegalInLines c else isIllegal c then malformed
    else readBasic lines fuel (c :: read) rest

/-- Reads a text of one line after its quotation mark. -/
def readLine (text : Text) : Except TomlError (Text × Text) :=
  readBasic false (text.length + 1) [] text

/-- Reads a text without escapes up to its closing mark. -/
def readLiteral (mark : Text) (isBad : Char → Bool) (text : Text) :
    Except TomlError (Text × Text) :=
  match Text.cut? mark text with
  | some (read, rest) => if read.any isBad then malformed else .ok (read, rest)
  | none => malformed

/-- Up to two marks more at the end of a text of several lines, which belong to it. -/
def readExtra (mark : Char) (read : Text) (text : Text) : Text × Text :=
  match text with
  | a :: rest =>
    if a = mark then
      match rest with
      | b :: rest => if b = mark then (read ++ [mark, mark], rest) else (read ++ [mark], b :: rest)
      | [] => (read ++ [mark], [])
    else (read, text)
  | [] => (read, [])

/-- The text without a line end at its beginning. -/
def skipFirstEnd : Text → Text
  | '\n' :: rest => rest
  | text => text

/-- Reads a text, if one begins here. -/
def readText? (text : Text) : Option (Except TomlError (Text × Text)) :=
  match text with
  | '"' :: '"' :: '"' :: rest =>
    let rest := skipFirstEnd rest
    some ((readBasic true (rest.length + 1) [] rest).map fun (t, rest) => readExtra '"' t rest)
  | '"' :: rest => some (readLine rest)
  | '\'' :: '\'' :: '\'' :: rest =>
    some ((readLiteral ['\'', '\'', '\''] isIllegalInLines (skipFirstEnd rest)).map
      fun (t, rest) => readExtra '\'' t rest)
  | '\'' :: rest => some (readLiteral ['\''] isIllegal rest)
  | _ => none

/-- Reads one name. -/
def readName (text : Text) : Except TomlError (Text × Text) :=
  match text with
  | '"' :: rest => readLine rest
  | '\'' :: rest => readLiteral ['\''] isIllegal rest
  | _ =>
    let (name, rest) := text.span isBare
    if name.isEmpty then malformed else .ok (name, rest)

/-- Reads names with points between them. -/
def readPath : Nat → Text → Except TomlError (Path × Text)
  | 0, _ => malformed
  | fuel + 1, text => do
    let (name, rest) ← readName text
    match skipGaps rest with
    | '.' :: rest =>
      let (path, rest) ← readPath fuel (skipGaps rest)
      return (name :: path, rest)
    | rest => return ([name], rest)

/-- The number of digits with `p` that follow a digit, single low lines passed over, and the
    rest. -/
def moreDigits (p : Char → Bool) : Text → Nat × Text
  | '_' :: d :: rest =>
    if p d then
      let (n, after) := moreDigits p rest
      (n + 1, after)
    else (0, '_' :: d :: rest)
  | d :: rest =>
    if p d then
      let (n, after) := moreDigits p rest
      (n + 1, after)
    else (0, d :: rest)
  | [] => (0, [])

/-- The number of digits with `p` at the beginning of a text, and the rest. -/
def countDigits (p : Char → Bool) : Text → Nat × Text
  | d :: rest =>
    if p d then
      let (n, after) := moreDigits p rest
      (n + 1, after)
    else (0, d :: rest)
  | [] => (0, [])

/-- The digits to a base that a letter names. -/
def digitsOf? : Char → Option (Char → Bool)
  | 'x' => some Text.isHexDigit
  | 'o' => some fun c => '0' ≤ c && c ≤ '7'
  | 'b' => some fun c => c = '0' || c = '1'
  | _ => none

/-- The rest after a number to another base. -/
def skipBased? : Text → Option Text
  | '0' :: letter :: rest => do
    let p ← digitsOf? letter
    let (n, after) := countDigits p rest
    if n = 0 then none else some after
  | _ => none

/-- The number of digits of a whole part, and the rest. -/
def skipWhole? : Text → Option (Nat × Text)
  | '0' :: rest => some (1, rest)
  | text =>
    let (n, rest) := countDigits Text.isPlainDigit text
    if n = 0 then none else some (n, rest)

/-- The rest after a fraction, if there is one. -/
def skipFraction (text : Text) : Text :=
  match text with
  | '.' :: rest =>
    let (n, after) := countDigits Text.isPlainDigit rest
    if n = 0 then text else after
  | _ => text

/-- The rest after an exponent, if there is one. -/
def skipPower (text : Text) : Text :=
  match text with
  | mark :: rest =>
    if mark = 'e' ∨ mark = 'E' then
      let (n, after) := countDigits Text.isPlainDigit (Numeral.takeSign rest).2
      if n = 0 then text else after
    else text
  | [] => text

/-- The beginning of a text that is followed by the rest. -/
def consumed (text rest : Text) : Text :=
  text.take (text.length - rest.length)

/-- Reads a number. An integer in common notation must not have too many digits. -/
def readNumber? (text : Text) : Option (Except TomlError (Item × Text)) :=
  match skipBased? text with
  | some rest => some (.ok (.number (consumed text rest), rest))
  | none =>
    match skipWhole? (Numeral.takeSign text).2 with
    | none => none
    | some (count, rest) =>
      let after := skipPower (skipFraction rest)
      if after.length = rest.length ∧ digitLimit < count then some (.error .tooManyDigits)
      else some (.ok (.number (consumed text after), after))

/-- Reads the name of an infinite or undefined number. -/
def readNamed? (text : Text) : Option (Except TomlError (Item × Text)) :=
  let rest := (Numeral.takeSign text).2
  let word := rest.take 3
  if word = "inf".toList ∨ word = "nan".toList then
    some (.ok (.number (consumed text (rest.drop 3)), rest.drop 3))
  else none

/-- Two digits that are at most a bound. -/
def twoDigits? (most : Nat) : Text → Option (Nat × Text)
  | a :: b :: rest =>
    let n := Text.ofDigits [a, b]
    if Text.isPlainDigit a && Text.isPlainDigit b && n ≤ most then some (n, rest) else none
  | _ => none

/-- The rest after a character that must be there. -/
def expect? (c : Char) : Text → Option Text
  | d :: rest => if c = d then some rest else none
  | [] => none

/-- The rest after a time of day. -/
def skipClock? (text : Text) : Option Text := do
  let (_, rest) ← twoDigits? 23 text
  let (_, rest) ← twoDigits? 59 (← expect? ':' rest)
  let (_, rest) ← twoDigits? 59 (← expect? ':' rest)
  match rest with
  | '.' :: after =>
    let (digits, after) := Numeral.takeDigits after
    return if digits.isEmpty then rest else after
  | _ => return rest

/-- The rest after a time zone, if there is one. -/
def skipZone (text : Text) : Text :=
  match text with
  | c :: rest =>
    if c = 'Z' ∨ c = 'z' then rest
    else if c = '+' ∨ c = '-' then
      (do
        let (_, rest) ← twoDigits? 23 rest
        let (_, rest) ← twoDigits? 59 (← expect? ':' rest)
        return rest : Option Text).getD text
    else text
  | [] => text

/-- The rest after a time of day that follows a date, if there is one. -/
def skipTime (text : Text) : Text :=
  match text with
  | c :: rest =>
    if c = 'T' ∨ c = 't' ∨ c = ' ' then ((skipClock? rest).map skipZone).getD text else text
  | [] => text

/-- The digits of a date, and the rest. -/
def readDate? (text : Text) : Option (Date × Text) := do
  let year := text.take 4
  if year.length < 4 || !year.all Text.isPlainDigit then none
  let (month, rest) ← twoDigits? 12 (← expect? '-' (text.drop 4))
  let (day, rest) ← twoDigits? 31 (← expect? '-' rest)
  if month = 0 ∨ day = 0 then none
  return (⟨Text.ofDigits year, month, day⟩, rest)

/-- Reads a date, a time of day or both. The date must exist. -/
def readTime? (text : Text) : Option (Except TomlError (Item × Text)) :=
  match readDate? text with
  | some (date, rest) =>
    let after := skipTime rest
    some (if date.IsValid then .ok (.time (consumed text after), after) else malformed)
  | none => (skipClock? text).map fun rest => .ok (.time (consumed text rest), rest)

end RecordFilter.Toml
