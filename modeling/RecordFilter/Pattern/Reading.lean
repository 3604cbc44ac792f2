import RecordFilter.Pattern.Alternatives
import RecordFilter.Pattern.InlineFlags
import RecordFilter.Quantity.Number
import RecordFilter.Text.Name

/-!
Reading a pattern: alternatives of items, where an item may be repeated and a group holds
alternatives again.

The recursion is bounded by the length of the text. Each item takes at least one token, and each
group at least its parenthesis, so the bound is never met.
-/

namespace RecordFilter

/-- A pattern that can be searched for. -/
structure Pattern where
  root : Pattern.Node
  /-- Whether classes are of plain characters only, where the pattern does not say otherwise. -/
  plainOnly : Bool

namespace Pattern

/-- Digits of any script, with single low lines between them allowed. -/
def looseDigits? : Text → Option (List Nat)
  | [] => none
  | [c] => (Text.digitValue? c).map ([·])
  | c :: '_' :: rest => do return (← Text.digitValue? c) :: (← looseDigits? rest)
  | c :: rest => do return (← Text.digitValue? c) :: (← looseDigits? rest)

/-- A group number in loose form, with blanks around it and a sign. -/
def groupNumber? (text : Text) : Option Nat := do
  let (negative, digits) := Numeral.takeSign (Text.trim text)
  let digits ← looseDigits? digits
  let number := digits.foldl (fun n d => 10 * n + d) 0
  if digitLimit < digits.length || (negative && number ≠ 0) then none else some number

/-- The most groups that a pattern can have. -/
def groupLimit : Nat := 1073741823

namespace Reader

/-- The characters that are passed over in a pattern with free spacing. -/
def isFreeBlank (c : Char) : Bool :=
  c = ' ' || (9 ≤ c.toNat && c.toNat ≤ 13)

/-- Passes over a comment up to the end of the line. -/
def skipComment : Nat → Reader Unit
  | 0 => return
  | fuel + 1 => do
    match ← take with
    | none => return
    | some token => if token = ['\n'] then return else skipComment fuel

/-- Passes over a comment in parentheses; `start` is the place of the opening one. -/
def skipGroupComment (start : Nat) : Nat → Reader Unit
  | 0 => return
  | fuel + 1 => do
    match ← take with
    | none => failAt "missing ), unterminated comment".toList start
    | some token => if token = [')'] then return else skipGroupComment start fuel

/-- A repetition bound, which must stay below the limit. -/
def boundOf (digits : Text) : Reader Nat := do
  if digitLimit < digits.length then throw .tooManyDigits
  else
    let bound := Text.ofDigits digits
    if repeatLimit ≤ bound then throw .repeatTooLarge else return bound

/-- Reads repetition bounds after their opening brace. Without a result the brace stands for
    itself. -/
def readBounds : Reader (Option (Nat × Option Nat)) := do
  let before ← get
  let start ← place
  if before.next = some ['}'] then return none
  let low ← takeUpTo Text.isPlainDigit before.size
  let high ← if ← accept ',' then takeUpTo Text.isPlainDigit before.size else pure low
  if ← accept '}' then
    let least ← if low.isEmpty then pure 0 else boundOf low
    if high.isEmpty then return some (least, none)
    let most ← boundOf high
    if most < least then failAt "min repeat greater than max repeat".toList start
    return some (least, some most)
  else
    set before
    return none

/-- Reads the sign after a repetition that says how it chooses the number of turns. -/
def readGreed : Reader Greed := do
  if ← accept '?' then return .lazy
  else if ← accept '+' then return .possessive
  else return .greedy

/-- The items read so far, the last one first, with the last one repeated; `start` is the place
    after the first character of the repetition sign. -/
def repeatLast (start least : Nat) (most : Option Nat) : List Node → Reader (List Node)
  | [] => failAt "nothing to repeat".toList (start - 1)
  | item :: items => do
    if item.isPosition then failAt "nothing to repeat".toList (start - 1)
    else if item.isRepetition then failAt "multiple repeat".toList (start - 1)
    else return .repetition (← readGreed) least most item.content :: items

/-- Reads the name of a group up to a closing character. -/
def readName (close : Char) : Reader Text := do
  let name ← takeName close "group name".toList
  if Text.isName name then return name
  else fail ("bad character in group name ".toList ++ Text.quoted name) (name.length + 1)

/-- The number of a named group. -/
def numberOf (name : Text) : Reader Nat := do
  match (← get).names.lookup name with
  | some number => return number
  | none => fail ("unknown group name ".toList ++ Text.quoted name) (name.length + 1)

/-- Opens a named group. -/
def openNamed (name : Text) : Reader Nat := do
  let known := (← get).names.lookup name
  let number ← openGroup
  match known with
  | some old =>
    fail ("redefinition of group name ".toList ++ Text.quoted name ++ " as group ".toList ++
      Text.ofNat number ++ "; was group ".toList ++ Text.ofNat old) (name.length + 1)
  | none =>
    modify fun s => { s with names := s.names ++ [(name, number)] }
    return number

/-- Reads the group that a choice depends on. A number may be that of a group further on, so its
    place is kept. -/
def readChooser : Reader Nat := do
  let name ← takeName ')' "group name".toList
  let number ← if Text.isName name then numberOf name
    else match groupNumber? name with
    | none => fail ("bad character in group name ".toList ++ Text.quoted name) (name.length + 1)
    | some 0 => fail "bad group number".toList (name.length + 1)
    | some number =>
      if groupLimit ≤ number then
        fail ("invalid group reference ".toList ++ Text.ofNat number) (name.length + 1)
      else
        let here := (← place) - name.length - 1
        modify fun s =>
          if (s.chosen.lookup number).isSome then s
          else { s with chosen := s.chosen ++ [(number, here)] }
        pure number
  checkBehind number
  return number

/-- Takes the parenthesis that closes the group opened at `start`. -/
def close (start : Nat) : Reader Unit := do
  if ← accept ')' then return else failAt "missing ), unterminated subpattern".toList start

/-- Takes a token that must be there. -/
def takeMore : Reader Text := do
  match ← take with
  | some token => return token
  | none => fail "unexpected end of pattern".toList 0

/-- Reads inside a group, after which the flags are as they were before it. -/
def inside {α : Type} (flags : Flags) (read : Reader α) : Reader α := do
  let outer := (← get).flags
  modify fun s => { s with flags }
  let result ← nested 2 read
  modify fun s => { s with flags := outer }
  return result

/-- The items read, the last one first, with the parts that bare groups hold in place of them. -/
def dissolve (items : List Node) : List Node :=
  items.reverse.flatMap fun item =>
    match item with
    | .group none body => body.items
    | item => [item]

mutual

/-- Reads alternatives. Only at the beginning of the whole pattern may `first` be set. -/
def readAlternatives (first : Bool) : Nat → Reader (List (List Node))
  | 0 => return []
  | fuel + 1 => do
    let parts ← readItems first fuel []
    if ← accept '|' then return parts :: (← readAlternatives false fuel) else return [parts]

/-- Reads a choice between alternatives, as the parts that it stands for. -/
def readChoice (first : Bool) : Nat → Reader (List Node)
  | 0 => return []
  | fuel + 1 => do
    let alternatives ← readAlternatives first fuel
    return partsOf (← get).flags alternatives

/-- Reads items up to a bar, a closing parenthesis or the end, after the `items` in reverse. A bare
    group is dissolved into what it holds. -/
def readItems (first : Bool) : Nat → List Node → Reader (List Node)
  | 0, items => return dissolve items
  | fuel + 1, items => do
    let next ← peek
    if next = none || next = some ['|'] || next = some [')'] then return dissolve items
    let token := (← take).getD []
    let flags := (← get).flags
    match token with
    | [c] =>
      if flags.verbose && isFreeBlank c then readItems first fuel items
      else if flags.verbose && c = '#' then
        skipComment ((← get).size + 1)
        readItems first fuel items
      else if c = '[' then readItems first fuel ((← readSet) :: items)
      else if c = '.' then readItems first fuel (.single (.any flags.dotAll) :: items)
      else if c = '^' then readItems first fuel (.position (.start flags.lines) :: items)
      else if c = '$' then readItems first fuel (.position (.stop flags.lines) :: items)
      else if c = '(' then
        match ← readGroup (first && items.isEmpty) fuel with
        | some item => readItems first fuel (item :: items)
        | none => readItems first fuel items
      else
        let start ← place
        if c = '*' then readItems first fuel (← repeatLast start 0 none items)
        else if c = '+' then readItems first fuel (← repeatLast start 1 none items)
        else if c = '?' then readItems first fuel (← repeatLast start 0 (some 1) items)
        else if c = '{' then
          match ← readBounds with
          | some (least, most) => readItems first fuel (← repeatLast start least most items)
          | none => readItems first fuel ((← letter c.toNat) :: items)
        else readItems first fuel ((← letter c.toNat) :: items)
    | _ :: c :: _ => readItems first fuel ((← readEscape c) :: items)
    | [] => return dissolve items

/-- Reads a group after its opening parenthesis. There is no item if it is a comment or sets flags
    for the whole pattern, which is allowed at its beginning only. -/
def readGroup (atStart : Bool) : Nat → Reader (Option Node)
  | 0 => return none
  | fuel + 1 => do
    let start := (← place) - 1
    let flags := (← get).flags
    let body (number : Option Nat) (flags : Flags) : Reader Node := do
      let node := Node.ofItems (← inside flags (readChoice false fuel))
      close start
      if let some number := number then closeGroup number node.width
      return node
    if !(← accept '?') then
      let number ← openGroup
      return some (.group (some number) (← body (some number) flags))
    match ← takeMore with
    | ['P'] =>
      if ← accept '<' then
        let number ← openNamed (← readName '>')
        return some (.group (some number) (← body (some number) flags))
      else if ← accept '=' then
        let name ← readName ')'
        return some (← readBack (← numberOf name) (name.length + 1))
      else
        let token ← takeMore
        fail ("unknown extension ?P".toList ++ token) (token.length + 2)
    | [':'] => return some (.group none (← body none flags))
    | ['>'] => return some (.atomic (← body none flags))
    | ['#'] =>
      skipGroupComment start ((← get).size + 1)
      return none
    | ['='] => return some (.look false false (← body none flags))
    | ['!'] => return some (.look false true (← body none flags))
    | ['<'] =>
      let token ← takeMore
      if token = ['='] || token = ['!'] then
        let outer := (← get).behind
        let count ← groupCount
        modify fun s => { s with behind := some (outer.getD count) }
        let node := Node.ofItems (← inside flags (readChoice false fuel))
        modify fun s => { s with behind := outer }
        close start
        return some (.look true (token = ['!']) node)
      else fail ("unknown extension ?<".toList ++ token) (token.length + 2)
    | ['('] =>
      let number ← readChooser
      let branch := nested 1 (Node.ofItems <$> readItems false fuel [])
      let yes ← branch
      let no ← if ← accept '|' then branch else pure .empty
      if (← peek) = some ['|'] then
        fail "conditional backref with more than two branches".toList 0
      close start
      return some (.choice number yes no)
    | token =>
      if token = ['-'] || (flagToken? token).isSome then
        match ← readFlags token with
        | none =>
          if atStart then return none
          else failAt "global flags not at the start of the expression".toList start
        | some (add, del) => return some (.scope (← body none (flags.scoped add del)))
      else fail ("unknown extension ?".toList ++ token) (token.length + 1)

end

end Reader

/-- What is wrong with a pattern that has been read: a repetition where the flag against them is
    set, or a condition on the text behind whose width is not fixed. -/
def Node.fault? (noRepetition : Bool) : Node → Option Text
  | empty | single _ | position _ | back .. => none
  | sequence first second | either first second | choice _ first second =>
    (first.fault? noRepetition).or (second.fault? noRepetition)
  | group _ body | scope body | atomic body | look false _ body => body.fault? noRepetition
  | look true _ body =>
    let width := body.width
    if repeatLimit < width.low then some "looks too much behind".toList
    else if width.low ≠ width.high then
      some "look-behind requires fixed-width pattern".toList
    else body.fault? noRepetition
  | repetition greed _ _ body =>
    if noRepetition then
      some ("internal: unsupported template operator ".toList ++ match greed with
        | .greedy => "MAX_REPEAT".toList
        | .lazy => "MIN_REPEAT".toList
        | .possessive => "POSSESSIVE_REPEAT".toList)
    else body.fault? noRepetition

/-- The pattern that a text stands for. -/
def read (text : Text) : Except PatternError Pattern := do
  let (next, rest) ← Reader.token text.length text
  let start : ReadState :=
    { rest, index := (next.getD []).length, next, size := text.length }
  let (parts, final) ← (Reader.readChoice true (4 * text.length + 10)).run start
  if final.flags.plainOnly && final.flags.unicode then throw .scriptConflict
  if final.next.isSome then
    throw (.malformed "unbalanced parenthesis".toList
      (some (final.index - (final.next.getD []).length)))
  let count := final.groups.length
  if let some (number, place) := final.chosen.find? (count < ·.1) then
    throw (.malformed ("invalid group reference ".toList ++ Text.ofNat number) (some place))
  let root := Node.ofItems parts
  match root.fault? final.flags.template with
  | some message => throw (.malformed message none)
  | none => return ⟨root, final.flags.plainOnly⟩

end Pattern

end RecordFilter
