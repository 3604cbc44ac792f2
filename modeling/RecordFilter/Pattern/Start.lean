import RecordFilter.Pattern.Reading

/-!
Where a match can begin.

A search passes over the places where a match cannot begin, as far as the beginning of the pattern
shows that. A class at the beginning is looked up under the flags of the whole pattern, so a group
with flags of its own cannot make it larger.
-/

namespace RecordFilter.Pattern

/-- Whether a member keeps a set from being looked up under other flags: a letter with another case,
    or a range with one or beyond the tabulated code points. -/
def SetItem.isFolded (fold : Fold) : SetItem → Bool
  | point p => fold.isCased p
  | range low high => fold ≠ .exact && (tabulatedLimit < high || fold.rangeIsCased low high)
  | members .. => false

/-- A test under the flags of the whole pattern. -/
def Single.outermost? (plainOnly : Bool) : Single → Option Single
  | letter false point .exact => some (letter false point .exact)
  | set negated items fold _ =>
    if items.any (·.isFolded fold) then none else some (set negated items .exact plainOnly)
  | _ => none

/-- The tests of alternatives that all begin with a letter. -/
def Node.letterTests? : Node → Option (List Single)
  | either first second => do return (← first.letterTests?) ++ (← second.letterTests?)
  | single (.letter false point .exact) | sequence (single (.letter false point .exact)) _ =>
    some [.letter false point .exact]
  | _ => none

/-- The tests of which the first character of a match passes one, if the pattern begins with a test
    that shows them. -/
def Node.startTests? (plainOnly : Bool) : Node → Option (List Single)
  | single test => (test.outermost? plainOnly).map ([·])
  | sequence first _ => first.startTests? plainOnly
  | group _ body | scope body => body.startTests? plainOnly
  | either first second => (either first second).letterTests?
  | _ => none

/-- Whether the pattern begins with a letter that is compared as it stands. There is no answer if
    the pattern has no parts. -/
def Node.beginsWithLetter? : Node → Option Bool
  | empty => none
  | single test => some test.exactLetter?.isSome
  | sequence first second => first.beginsWithLetter?.or second.beginsWithLetter?
  | group _ body | scope body => body.beginsWithLetter?
  | _ => some false

/-- The places of a text with `size` characters where a match is looked for; `point?` gives the
    character at a place. Without a start test the last places that leave fewer characters than a
    match needs are left out, all but one. -/
def starts (pattern : Pattern) (size : Nat) (point? : Nat → Option Nat) : List Nat :=
  let least := pattern.root.width.low
  let places := List.range (size + 1)
  if least = 0 || pattern.root.beginsWithLetter? = some true then places
  else if size < least then []
  else
    match pattern.root.startTests? pattern.plainOnly with
    | some tests => places.filter fun place =>
        (point? place).any fun point => tests.any (·.holds point)
    | none => List.range (size + 2 - least)

end RecordFilter.Pattern
