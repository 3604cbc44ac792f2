import RecordFilter.Pattern.Escape

/-!
Character sets: how they are read, and which characters they hold.

A set without any letter that has two cases is compared as it stands, even where case is ignored.
Otherwise the small form of a character is looked up among the small forms of the members. Above
U+FFFF a single member is compared as it stands with that small form, and a range with the small
form and its capital.
-/

namespace RecordFilter.Pattern

/-- The last code point whose small form is tabulated for sets. -/
def tabulatedLimit : Nat := 0xFFFF

/-- Whether the run has a code point in a range. -/
def meetsRun (low high : Nat) (run : Text.CaseRun) : Bool :=
  let start := if low ≤ run.first then run.first
    else run.first + (low - run.first + run.step - 1) / run.step * run.step
  start ≤ run.last && start ≤ high

/-- Whether a range of code points holds a letter with two cases. -/
def Fold.rangeIsCased (low high : Nat) : Fold → Bool
  | exact => false
  | plain => (low ≤ 90 && 65 ≤ high) || (low ≤ 122 && 97 ≤ high)
  | unicode =>
    Text.lowerRuns.any (meetsRun low high) || Text.upperRuns.any (meetsRun low high) ||
      Text.upperSequences.any (fun entry => low ≤ entry.1 && entry.1 ≤ high) ||
      (low ≤ 0x130 && 0x130 ≤ high)

/-- Whether the case of letters matters to a member of a set. -/
def SetItem.isCased (fold : Fold) : SetItem → Bool
  | point p => tabulatedLimit < p || fold.isCased p
  | range low high => tabulatedLimit < high || fold.rangeIsCased low high
  | members .. => false

/-- The way in which a set compares. -/
def setFold (fold : Fold) (items : List SetItem) : Fold :=
  if items.any (·.isCased fold) then fold else .exact

/-- The code points that are taken for a small letter. -/
def Fold.spellings (fold : Fold) (small : Nat) : List Nat :=
  match fold with
  | exact => [small]
  | plain => if 97 ≤ small ∧ small ≤ 122 then [small, small - 32] else [small]
  | unicode => (small :: variants small).flatMap capitalsOf

/-- Whether a member of a set holds a character, given in its small form. -/
def SetItem.holds (fold : Fold) (plainOnly : Bool) (small : Nat) : SetItem → Bool
  | point p =>
    if fold = .exact || tabulatedLimit < p then p == small
    else
      let own := fold.lower p
      own == small || (fold = .unicode && (variants own).contains small)
  | range low high =>
    let within (point : Nat) : Bool := low ≤ point && point ≤ high
    if fold = .exact then within small
    else
      (fold.spellings small).any (fun point => within point && point ≤ tabulatedLimit) ||
        (tabulatedLimit < high && (within small || within (upperPoint small)))
  | members cls negated => cls.holds plainOnly small != negated

/-- Whether a code point is matched by the test of a single character. -/
def Single.holds (test : Single) (point : Nat) : Bool :=
  match test with
  | any lineFeed => lineFeed || point != 10
  | letter negated own fold => fold.alike own point != negated
  | set negated items fold plainOnly =>
    items.any (·.holds fold plainOnly (fold.lower point)) != negated

namespace Reader

/-- Fails because of a range whose ends are written `this` and `that`. -/
def failRange {α : Type} (this that : Text) : Reader α :=
  fail ("bad character range ".toList ++ this ++ '-' :: that) (this.length + 1 + that.length)

/-- The member of a set that a token stands for. -/
def readSetItem : Text → Reader SetItem
  | [c] => return .point c.toNat
  | _ :: c :: _ => readSetEscape c
  | [] => return .point 0

/-- The range between two members, which must be characters in order. -/
def rangeOf (this that : Text) : SetItem → SetItem → Reader SetItem
  | .point low, .point high =>
    if high < low then failRange this that else return .range low high
  | _, _ => failRange this that

/-- Reads the members of a set up to its bracket; `start` is the place of the opening one. The first
    bracket is a member if nothing stands before it. -/
def readSetItems (start : Nat) : Nat → List SetItem → Reader (List SetItem)
  | 0, items => return items
  | fuel + 1, items => do
    match ← take with
    | none => failAt "unterminated character set".toList start
    | some this =>
      if this = [']'] && !items.isEmpty then return items
      else
        let low ← readSetItem this
        if ← accept '-' then
          match ← take with
          | none => failAt "unterminated character set".toList start
          | some that =>
            if that = [']'] then return items ++ [low, .point 45]
            else
              let high ← readSetItem that
              readSetItems start fuel (items ++ [← rangeOf this that low high])
        else readSetItems start fuel (items ++ [low])

/-- Reads a character set after its opening bracket. -/
def readSet : Reader Node := do
  let start := (← place) - 1
  let negated ← accept '^'
  let items := (← readSetItems start ((← get).size + 1) []).eraseDups
  let flags := (← get).flags
  match items with
  | [.point point] => return .single (.ofLetter negated point flags.fold)
  | _ => return .single (.set negated items (setFold flags.fold items) flags.plainOnly)

end Reader

end RecordFilter.Pattern
