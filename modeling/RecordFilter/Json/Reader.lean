import RecordFilter.Number.Numeral
import RecordFilter.Value.Basic

/-!
Reading data files in JSON.

Beyond the standard, the names of the infinite and undefined numbers are read. Of the members of an
object with one name the last counts, at the place of the first. A number with a point or an
exponent is a floating point number, and any other one an integer.
-/

namespace RecordFilter.Json

/-- Why a text is not read. -/
inductive JsonError
  /-- The text breaks the rules of the format. -/
  | malformed
  /-- An integer has more digits than are converted. -/
  | tooManyDigits
  /-- Arrays and objects are nested too deeply. -/
  | nestedTooDeeply
  deriving DecidableEq

/-- How deeply arrays and objects may be nested. -/
def depthLimit : Nat := 984

/-- White space between the parts of a text. -/
def isGap (c : Char) : Bool :=
  c = ' ' || c = '\t' || c = '\n' || c = '\r'

/-- The text without white space at its beginning. -/
def skipGaps (text : Text) : Text :=
  text.dropWhile isGap

/-- The value of a digit to the base sixteen. -/
def hexValue? (c : Char) : Option Nat :=
  if Text.isPlainDigit c then some (c.toNat - 48)
  else if 'a' ≤ c && c ≤ 'f' then some (c.toNat - 87)
  else if 'A' ≤ c && c ≤ 'F' then some (c.toNat - 55)
  else none

/-- A code of four digits to the base sixteen. -/
def readCode : Text → Except JsonError (Nat × Text)
  | a :: b :: c :: d :: rest =>
    match hexValue? a, hexValue? b, hexValue? c, hexValue? d with
    | some a, some b, some c, some d => .ok (((a * 16 + b) * 16 + c) * 16 + d, rest)
    | _, _, _, _ => .error .malformed
  | _ => .error .malformed

/-- The character of a code, or the mark of one that is no character. -/
def charOf (code : Nat) : Char :=
  if h : code.isValidChar then Char.ofNatAux code h else '\ufffd'

/-- The character of one code, or of two that make up one beyond U+FFFF. -/
def readUnicode (text : Text) : Except JsonError (Char × Text) := do
  let (high, rest) ← readCode text
  match rest with
  | '\\' :: 'u' :: after =>
    if 0xD800 ≤ high ∧ high < 0xDC00 then
      let (low, beyond) ← readCode after
      if 0xDC00 ≤ low ∧ low < 0xE000 then
        return (charOf (0x10000 + (high - 0xD800) * 0x400 + (low - 0xDC00)), beyond)
      else return (charOf high, rest)
    else return (charOf high, rest)
  | _ => return (charOf high, rest)

/-- The character of an escape without a code. -/
def escaped? : Char → Option Char
  | '"' => some '"'
  | '\\' => some '\\'
  | '/' => some '/'
  | 'b' => some '\x08'
  | 'f' => some '\x0c'
  | 'n' => some '\n'
  | 'r' => some '\r'
  | 't' => some '\t'
  | _ => none

/-- Reads a text after its opening quote; `read` holds what came before, in reverse. The fuel bounds
    the number of characters. -/
def readText : Nat → Text → Text → Except JsonError (Text × Text)
  | 0, _, _ => .error .malformed
  | _ + 1, _, [] => .error .malformed
  | fuel + 1, read, c :: rest =>
    if c = '"' then .ok (read.reverse, rest)
    else if c.toNat < 32 then .error .malformed
    else if c = '\\' then
      match rest with
      | 'u' :: rest => do
        let (c, rest) ← readUnicode rest
        readText fuel (c :: read) rest
      | e :: rest =>
        match escaped? e with
        | some c => readText fuel (c :: read) rest
        | none => .error .malformed
      | [] => .error .malformed
    else readText fuel (c :: read) rest

/-- Reads a text in quotes. -/
def readString (text : Text) : Except JsonError (Text × Text) :=
  readText (text.length + 1) [] text

/-- The whole part of a number: zero, or digits that do not begin with one. -/
def readWhole? : Text → Option (Text × Text)
  | '0' :: rest => some (['0'], rest)
  | text =>
    let (digits, rest) := Numeral.takeDigits text
    if digits.isEmpty then none else some (digits, rest)

/-- The digits after a point, if there are any. -/
def readFraction : Text → Text × Text
  | '.' :: rest =>
    let (digits, after) := Numeral.takeDigits rest
    if digits.isEmpty then ([], '.' :: rest) else (digits, after)
  | text => ([], text)

/-- An exponent, if there is one with digits. -/
def readPower (text : Text) : Option Int × Text :=
  match text with
  | mark :: rest =>
    if mark = 'e' ∨ mark = 'E' then
      let (negative, digits) := Numeral.takeSign rest
      let (digits, after) := Numeral.takeDigits digits
      if digits.isEmpty then (none, text)
      else (some (if negative then -(Text.ofDigits digits) else Text.ofDigits digits), after)
    else (none, text)
  | [] => (none, [])

/-- Reads a number without a sign. -/
def readUnsigned (negative : Bool) (text : Text) : Except JsonError (Value × Text) :=
  match readWhole? text with
  | none => .error .malformed
  | some (whole, rest) =>
    let (fraction, rest) := readFraction rest
    let (power, rest) := readPower rest
    if fraction.isEmpty && power.isNone then
      if digitLimit < whole.length then .error .tooManyDigits
      else .ok (.integer (Numeral.IntegerForm.value ⟨negative, whole⟩), rest)
    else .ok (.float (Numeral.DecimalForm.value negative ⟨whole, fraction, power.getD 0⟩), rest)

/-- The words that stand for values. -/
def words : List (Text × Value) :=
  [("null".toList, .null), ("true".toList, .boolean true), ("false".toList, .boolean false),
    ("NaN".toList, .float .nan), ("Infinity".toList, .float (.infinite false)),
    ("-Infinity".toList, .float (.infinite true))]

/-- Reads a word or a number. -/
def readPlain (text : Text) : Except JsonError (Value × Text) :=
  match words.find? (·.1.isPrefixOf text) with
  | some (word, value) => .ok (value, text.drop word.length)
  | none =>
    match text with
    | '-' :: rest => readUnsigned true rest
    | _ => readUnsigned false text

/-- The members with a further one. One with a name that is there already takes its place. -/
def put (name : Text) (value : Value) : List (Text × Value) → List (Text × Value)
  | [] => [(name, value)]
  | entry :: entries =>
    if entry.1 = name then (name, value) :: entries else entry :: put name value entries

/-- The members of an object, each name once. -/
def membersOf (pairs : List (Text × Value)) : List (Text × Value) :=
  pairs.foldl (fun entries pair => put pair.1 pair.2 entries) []

mutual

/-- Reads a value in which arrays and objects are nested no deeper than `room`. The fuel bounds the
    number of values. -/
def readValue (room : Nat) : Nat → Text → Except JsonError (Value × Text)
  | 0, _ => .error .malformed
  | fuel + 1, text =>
    match text with
    | '"' :: rest => do
      let (t, rest) ← readString rest
      return (.text t, rest)
    | '[' :: rest =>
      if room = 0 then .error .nestedTooDeeply
      else match skipGaps rest with
      | ']' :: rest => .ok (.list [], rest)
      | rest => do
        let (items, rest) ← readItems (room - 1) fuel rest
        return (.list items, rest)
    | '\x7b' :: rest =>
      if room = 0 then .error .nestedTooDeeply
      else match skipGaps rest with
      | '\x7d' :: rest => .ok (.dict [], rest)
      | rest => do
        let (pairs, rest) ← readMembers (room - 1) fuel rest
        return (.dict (membersOf pairs), rest)
    | _ => readPlain text

/-- Reads the values of an array up to its closing bracket. -/
def readItems (room : Nat) : Nat → Text → Except JsonError (List Value × Text)
  | 0, _ => .error .malformed
  | fuel + 1, text => do
    let (item, rest) ← readValue room fuel text
    match skipGaps rest with
    | ',' :: rest =>
      let (items, rest) ← readItems room fuel (skipGaps rest)
      return (item :: items, rest)
    | ']' :: rest => return ([item], rest)
    | _ => .error .malformed

/-- Reads the members of an object up to its closing brace. -/
def readMembers (room : Nat) : Nat → Text → Except JsonError (List (Text × Value) × Text)
  | 0, _ => .error .malformed
  | fuel + 1, text =>
    match text with
    | '"' :: rest => do
      let (name, rest) ← readString rest
      match skipGaps rest with
      | ':' :: rest =>
        let (value, rest) ← readValue room fuel (skipGaps rest)
        match skipGaps rest with
        | ',' :: rest =>
          let (pairs, rest) ← readMembers room fuel (skipGaps rest)
          return ((name, value) :: pairs, rest)
        | '\x7d' :: rest => return ([(name, value)], rest)
        | _ => .error .malformed
      | _ => .error .malformed
    | _ => .error .malformed

end

/-- Reads a text that is one value. -/
def read (text : Text) : Except JsonError Value := do
  let (value, rest) ← readValue depthLimit (2 * text.length + 2) (skipGaps text)
  if (skipGaps rest).isEmpty then return value else throw .malformed

end RecordFilter.Json
