import RecordFilter.Pattern.Syntax
import RecordFilter.Text.Quoted

/-!
The reading position in the text of a pattern, and what can be wrong with the text.

The text is read in tokens: a character, or a backslash together with the character after it. The
token at the reading position has always been read, so a backslash at the very end is found as
soon as the token before it is taken.
-/

namespace RecordFilter.Pattern

/-- Why a text is not a pattern that can be used. -/
inductive PatternError
  /-- The text breaks the rules at a place in it, or on the whole. -/
  | malformed (message : Text) (place : Option Nat)
  /-- A repetition bound is too large to be counted. -/
  | repeatTooLarge
  /-- A repetition bound has more digits than are converted. -/
  | tooManyDigits
  /-- The pattern asks for letters of all scripts and for plain letters only. -/
  | scriptConflict
  /-- Groups are nested too deeply to be read. -/
  | nestedTooDeeply
  deriving DecidableEq

/-- The flags that change what a pattern means. -/
structure Flags where
  ignoreCase : Bool := false
  lines : Bool := false
  dotAll : Bool := false
  verbose : Bool := false
  plainOnly : Bool := false
  unicode : Bool := false
  template : Bool := false
  deriving DecidableEq

/-- The flags that are set in either. -/
def Flags.union (a b : Flags) : Flags :=
  ⟨a.ignoreCase || b.ignoreCase, a.lines || b.lines, a.dotAll || b.dotAll,
    a.verbose || b.verbose, a.plainOnly || b.plainOnly, a.unicode || b.unicode,
    a.template || b.template⟩

/-- The flags that are set in both. -/
def Flags.inter (a b : Flags) : Flags :=
  ⟨a.ignoreCase && b.ignoreCase, a.lines && b.lines, a.dotAll && b.dotAll,
    a.verbose && b.verbose, a.plainOnly && b.plainOnly, a.unicode && b.unicode,
    a.template && b.template⟩

/-- The flags inside a group that sets some and clears some. The two flags on scripts replace each
    other. -/
def Flags.scoped (flags add del : Flags) : Flags :=
  let flags := if add.plainOnly || add.unicode then
      { flags with plainOnly := false, unicode := false } else flags
  let all := flags.union add
  ⟨all.ignoreCase && !del.ignoreCase, all.lines && !del.lines, all.dotAll && !del.dotAll,
    all.verbose && !del.verbose, all.plainOnly && !del.plainOnly, all.unicode && !del.unicode,
    all.template && !del.template⟩

/-- How letters are compared under the flags. -/
def Flags.fold (flags : Flags) : Fold :=
  if !flags.ignoreCase then .exact else if flags.plainOnly then .plain else .unicode

/-- What reading keeps track of. -/
structure ReadState where
  /-- The characters after the current token. -/
  rest : Text
  /-- The place after the current token. -/
  index : Nat
  /-- The current token; at the end there is none. -/
  next : Option Text
  /-- The length of the text. -/
  size : Nat
  /-- The flags that hold at the reading position; outside of groups, for the whole pattern. -/
  flags : Flags := {}
  /-- The widths of the groups, counted from one; an open group has none yet. -/
  groups : List (Option Width) := []
  /-- The numbers of the named groups. -/
  names : List (Text × Nat) := []
  /-- The number of groups when the outermost condition on the text behind was opened. -/
  behind : Option Nat := none
  /-- The groups that are chosen by, with the place where that is first written. -/
  chosen : List (Nat × Nat) := []
  /-- How much of the depth limit the groups around the reading position have used up. -/
  depth : Nat := 0

/-- The limit on the depth of groups. A group uses up two of it, and a branch of a choice one. -/
def depthLimit : Nat := 978

/-- A step of reading. -/
abbrev Reader := StateT ReadState (Except PatternError)

namespace Reader

/-- Fails at a place. -/
def failAt {α : Type} (message : Text) (place : Nat) : Reader α :=
  throw (.malformed message (some place))

/-- The token at the front of the remaining characters, and what follows it. -/
def token (size : Nat) : Text → Except PatternError (Option Text × Text)
  | [] => .ok (none, [])
  | ['\\'] => .error (.malformed "bad escape (end of pattern)".toList (some (size - 1)))
  | '\\' :: c :: rest => .ok (some ['\\', c], rest)
  | c :: rest => .ok (some [c], rest)

/-- The current token. -/
def peek : Reader (Option Text) := return (← get).next

/-- Takes the current token. -/
def take : Reader (Option Text) := do
  let s ← get
  match token s.size s.rest with
  | .error e => throw e
  | .ok (next, rest) =>
    set { s with next, rest, index := s.index + (next.getD []).length }
    return s.next

/-- Takes the current token if it is the given character. -/
def accept (c : Char) : Reader Bool := do
  if (← get).next = some [c] then
    discard take
    return true
  else return false

/-- The place of the current token. -/
def place : Reader Nat := do
  let s ← get
  return s.index - (s.next.getD []).length

/-- Fails at the place `back` characters before the current token. -/
def fail {α : Type} (message : Text) (back : Nat) : Reader α := do
  failAt message ((← place) - back)

/-- Takes at most `count` tokens that are single characters with `p`. -/
def takeUpTo (p : Char → Bool) : Nat → Reader Text
  | 0 => return []
  | count + 1 => do
    match (← get).next with
    | some [c] =>
      if p c then
        discard take
        return c :: (← takeUpTo p count)
      else return []
    | _ => return []

/-- Takes tokens up to a closing character, which is taken as well; `what` names what is read. The
    fuel bounds the number of tokens. -/
def takeUntil (close : Char) (what : Text) : Nat → Text → Reader Text
  | 0, read => return read
  | fuel + 1, read => do
    match ← take with
    | none =>
      if read.isEmpty then fail ("missing ".toList ++ what) 0
      else fail ("missing ".toList ++ close :: ", unterminated name".toList) read.length
    | some [c] =>
      if c = close then
        if read.isEmpty then fail ("missing ".toList ++ what) 1 else return read
      else takeUntil close what fuel (read ++ [c])
    | some other => takeUntil close what fuel (read ++ other)

/-- Takes a name up to a closing character. -/
def takeName (close : Char) (what : Text) : Reader Text := do
  takeUntil close what ((← get).size + 1) []

/-- Reads what is nested in a group, which uses up some of the depth limit. -/
def nested {α : Type} (cost : Nat) (read : Reader α) : Reader α := do
  let outer := (← get).depth
  if depthLimit < outer + cost then throw .nestedTooDeeply
  modify fun s => { s with depth := outer + cost }
  let result ← read
  modify fun s => { s with depth := outer }
  return result

/-- The number of groups so far, the whole pattern counted as one. -/
def groupCount : Reader Nat := return (← get).groups.length + 1

/-- The width of a group that is closed. -/
def closedWidth? (number : Nat) : Reader (Option Width) := do
  return ((← get).groups[number - 1]?).join

/-- Opens a group that captures, and gives its number. -/
def openGroup : Reader Nat := do
  let number ← groupCount
  modify fun s => { s with groups := s.groups ++ [none] }
  return number

/-- Closes a group. -/
def closeGroup (number : Nat) (width : Width) : Reader Unit :=
  modify fun s => { s with groups := s.groups.set (number - 1) (some width) }

/-- Checks that a group may be referred to inside a condition on the text behind. -/
def checkBehind (number : Nat) : Reader Unit := do
  match (← get).behind with
  | none => return
  | some limit =>
    if (← closedWidth? number).isNone then fail "cannot refer to an open group".toList 0
    else if limit ≤ number then
      fail "cannot refer to group defined in the same lookbehind subpattern".toList 0
    else return

end Reader

/-- The wording of a malformed pattern: what is wrong, and where. A pattern of several lines also
    has the line and the column. -/
def describe (pattern message : Text) (place : Option Nat) : Text :=
  match place with
  | none => message
  | some n =>
    let before := pattern.take n
    let lineStart := (before.reverse.takeWhile (· ≠ '\n')).length
    message ++ " at position ".toList ++ Text.ofNat n ++
      if pattern.contains '\n' then
        " (line ".toList ++ Text.ofNat (before.count '\n' + 1) ++ ", column ".toList ++
          Text.ofNat (lineStart + 1) ++ [')']
      else []

end RecordFilter.Pattern
