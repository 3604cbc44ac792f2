import RecordFilter.Pattern.Start

/-!
Searching for a pattern in a text.

A node is matched from a place on, and the goal says what has to match after it. The first way in
which both match is taken, so the order of the alternatives, and of the numbers of turns, decides
what the groups hold.

A trial leaves a memory behind, also when it fails: the ends of the groups, and a cursor. A goal
starts at a place of its own, so the cursor matters only after a possessive repetition. That goes on
from the cursor, and when its last turn fails, the cursor is where this turn last stood. Outside of
repetitions the ends of groups are not written twice, and a choice that is undone only forgets those
that are new.
-/

namespace RecordFilter.Pattern

/-- What a trial leaves behind. -/
structure Memory where
  /-- The place where matching stood last. -/
  cursor : Nat
  /-- The ends of the groups, up to the last one that counts. The two ends of the group with number
      `n` are at `2 * n - 2` and `2 * n - 1`. -/
  ends : Array (Option Nat) := #[]

/-- Whether a trial has succeeded, and what it leaves behind. -/
abbrev Trial := Bool × Memory

/-- What remains to be matched from a place on. -/
abbrev Goal := Nat → Memory → Trial

/-- What comes after a node. -/
structure Rest where
  /-- The letter that it begins with, if it is known to begin with one. -/
  letter : Option Nat
  goal : Goal

/-- The text that is searched. -/
abbrev Subject := Array Char

/-- The code point of the character at a place. -/
def pointAt? (subject : Subject) (place : Nat) : Option Nat :=
  subject[place]?.map Char.toNat

/-- Whether the character at a place passes a test. -/
def passes (subject : Subject) (test : Single) (place : Nat) : Bool :=
  (pointAt? subject place).any test.holds

namespace Memory

/-- The memory with the cursor at a place. -/
def moveTo (m : Memory) (place : Nat) : Memory :=
  { m with cursor := place }

/-- Writes down an end of a group. Ends that come before it and are not known yet stay unknown. -/
def mark (m : Memory) (index place : Nat) : Memory :=
  let known := m.ends ++ Array.replicate (index + 1 - m.ends.size) none
  { m with ends := known.setIfInBounds index (some place) }

/-- The memory with the ends that were known before. Ends that have been overwritten come back only
    within a repetition. -/
def restore (m : Memory) (repeated : Bool) (before : Array (Option Nat)) : Memory :=
  { m with ends := if repeated then before else m.ends.extract 0 before.size }

/-- The ends of a group that has captured. -/
def captured? (m : Memory) (number : Nat) : Option (Nat × Nat) := do
  let first ← (← m.ends[2 * number - 2]?)
  let last ← (← m.ends[2 * number - 1]?)
  if last < first then none else some (first, last)

/-- Whether no group ends before its beginning, from the ends at `index` on. -/
def isOrderly (m : Memory) : Bool :=
  (List.range (m.ends.size / 2)).all fun index =>
    match m.ends[2 * index]?.join, m.ends[2 * index + 1]?.join with
    | some first, some last => first ≤ last
    | _, _ => true

end Memory

/-- Whether the character before a place is a word character. -/
def wordBefore (subject : Subject) (plainOnly : Bool) (place : Nat) : Bool :=
  0 < place && (pointAt? subject (place - 1)).any (CharClass.word.holds plainOnly)

/-- Whether the character after a place is a word character. -/
def wordAfter (subject : Subject) (plainOnly : Bool) (place : Nat) : Bool :=
  (pointAt? subject place).any (CharClass.word.holds plainOnly)

/-- Whether a condition on a place is met. No condition on word edges is met in the empty text. -/
def Position.holds (subject : Subject) (place : Nat) : Position → Bool
  | start lines => place == 0 || (lines && pointAt? subject (place - 1) == some 10)
  | stop lines =>
    place == subject.size ||
      (pointAt? subject place == some 10 && (lines || place + 1 == subject.size))
  | textEnd => place == subject.size
  | wordEdge negated plainOnly =>
    subject.size != 0 &&
      (wordBefore subject plainOnly place != wordAfter subject plainOnly place) != negated

/-- Whether the characters from two places on are alike. -/
def sameText (subject : Subject) (fold : Fold) : Nat → Nat → Nat → Bool
  | 0, _, _ => true
  | count + 1, a, b =>
    match pointAt? subject a, pointAt? subject b with
    | some x, some y =>
      fold.lower x == fold.lower y && sameText subject fold count (a + 1) (b + 1)
    | _, _ => false

/-- What a node begins with. -/
inductive Beginning
  /-- The node has no parts. -/
  | nothing
  | test (test : Single)
  | other

/-- What a node begins with. -/
def Node.beginning : Node → Beginning
  | empty => .nothing
  | single test => .test test
  | sequence first second =>
    match first.beginning with
    | .nothing => second.beginning
    | found => found
  | group none body | scope body => body.beginning
  | _ => .other

/-- What comes after a node that another one follows. -/
def Rest.after (rest : Rest) (second : Node) (goal : Goal) : Rest :=
  match second.beginning with
  | .nothing => { letter := rest.letter, goal }
  | .test test => { letter := test.exactLetter?, goal }
  | .other => { letter := none, goal }

/-- Whether a test can be made before the rest of an alternative is tried. -/
def Single.isImmediate : Single → Bool
  | letter negated _ fold => !negated && fold = .exact
  | set _ _ fold _ => fold = .exact
  | any _ => false

/-- Whether an alternative is worth trying at a place. -/
def Node.mayBegin (subject : Subject) (node : Node) (place : Nat) : Bool :=
  match node.beginning with
  | .test test => !test.isImmediate || passes subject test place
  | _ => true

/-- Tries an alternative, which moves the cursor unless it is not worth trying. -/
def tryAlternative (subject : Subject) (node : Node) (step : Goal) : Goal := fun place m =>
  if node.mayBegin subject place then step place (m.moveTo place) else (false, m)

/-- Whether the cursor moves along with the characters that pass a test. It does so for sets without
    regard to case, and for letters with variants. -/
def Single.movesCursor : Single → Bool
  | set _ _ fold _ => fold ≠ .exact
  | letter _ point .unicode => !(variants (lowerPoint point)).isEmpty
  | _ => false

/-- How many characters from a place on pass a test, up to a limit. -/
def runLength (subject : Subject) (test : Single) : Nat → Nat → Nat
  | 0, _ => 0
  | limit + 1, place =>
    if passes subject test place then runLength subject test limit (place + 1) + 1 else 0

/-- The length of a run of characters that pass a test, up to a limit, and the memory after it has
    been found. -/
def takeRun (subject : Subject) (test : Single) (limit : Option Nat) (place : Nat) (m : Memory) :
    Nat × Memory :=
  let left := subject.size - place
  let count := runLength subject test (limit.elim left (min left)) place
  (count, m.moveTo (if test.movesCursor then place + count else place))

/-- Tries the rest `extra` characters after `start`, or fewer. -/
def giveBack (subject : Subject) (repeated : Bool) (rest : Rest) (before : Array (Option Nat))
    (start : Nat) : Nat → Memory → Trial
  | extra, m =>
    let place := start + extra
    let (found, m) :=
      if rest.letter.all fun point => pointAt? subject place = some point then
        let (found, next) := rest.goal place (m.moveTo place)
        if found then (true, next) else (false, next.restore repeated before)
      else (false, m)
    if found then (true, m)
    else
      match extra with
      | 0 => (false, m)
      | extra + 1 => giveBack subject repeated rest before start extra m

/-- Tries the rest after `count` characters, or after more of them. -/
def takeMore (subject : Subject) (test : Single) (repeated : Bool) (most : Option Nat)
    (goal : Goal) (before : Array (Option Nat)) : Nat → Nat → Goal
  | 0, _, _, m => (false, m)
  | fuel + 1, count, place, m =>
    if most.all (count ≤ ·) then
      let (found, m) := goal place (m.moveTo place)
      if found then (true, m)
      else
        let (length, m) := takeRun subject test (some 1) place (m.restore repeated before)
        if length = 0 then (false, m)
        else takeMore subject test repeated most goal before fuel (count + 1) (place + 1) m
    else (false, m)

/-- A repetition of a single character. -/
def repeatSingle (subject : Subject) (test : Single) (repeated : Bool) (greed : Greed)
    (least : Nat) (most : Option Nat) (rest : Rest) : Goal := fun place m =>
  if subject.size - place < least then (false, m)
  else
    match greed with
    | .greedy =>
      let (count, next) := takeRun subject test most place m
      if count < least then (false, next)
      else giveBack subject repeated rest m.ends (place + least) (count - least) next
    | .lazy =>
      let (count, next) := takeRun subject test (some least) place m
      if count < least then (false, next)
      else
        takeMore subject test repeated most rest.goal m.ends (subject.size + 1) least
          (place + least) next
    | .possessive =>
      let (count, next) := takeRun subject test most place m
      if count < least then (false, next) else rest.goal (place + count) next

/-- Whether another turn may follow `count` turns. A turn that need not be taken must not begin
    where the last such turn began, or empty turns would never end. -/
def mayRepeat (most : Option Nat) (count : Nat) (last : Option Nat) (place : Nat) : Bool :=
  most.all (count < ·) && last != some place

/-- A trial that puts the cursor back to a place if it fails. -/
def backTo (place : Nat) (trial : Trial) : Trial :=
  if trial.1 then trial else (false, trial.2.moveTo place)

/-- As many turns as possible before the goal. -/
def repeatGreedy (turn : Rest → Goal) (least : Nat) (most : Option Nat) (goal : Goal) :
    Nat → Nat → Option Nat → Goal
  | 0, _, _, place, m => goal place m
  | fuel + 1, count, last, place, m =>
    let again (last : Option Nat) : Trial :=
      turn ⟨none, repeatGreedy turn least most goal fuel (count + 1) last⟩ place (m.moveTo place)
    if count < least then backTo place (again last)
    else if mayRepeat most count last place then
      let (found, next) := again (some place)
      if found then (true, next)
      else backTo place (goal place (m.moveTo place))
    else backTo place (goal place (m.moveTo place))

/-- As few turns as possible before the goal. -/
def repeatLazy (turn : Rest → Goal) (repeated : Bool) (least : Nat) (most : Option Nat)
    (goal : Goal) : Nat → Nat → Option Nat → Goal
  | 0, _, _, place, m => goal place m
  | fuel + 1, count, last, place, m =>
    let again (last : Option Nat) (m : Memory) : Trial :=
      turn ⟨none, repeatLazy turn repeated least most goal fuel (count + 1) last⟩ place m
    if count < least then backTo place (again last (m.moveTo place))
    else
      let (found, next) := goal place (m.moveTo place)
      if found then (true, next)
      else
        let next := (next.restore repeated m.ends).moveTo place
        if mayRepeat most count last place then backTo place (again (some place) next)
        else (false, next)

/-- The turns that a possessive repetition has to take. -/
def repeatLeast (turn : Goal) : Nat → Memory → Trial
  | 0, m => (true, m)
  | count + 1, m =>
    let (found, next) := turn m.cursor m
    if found then repeatLeast turn count next else (false, next)

/-- The turns that a possessive repetition takes beyond those. The one that fails leaves the groups
    as they were before it, and the cursor where it last stood. -/
def repeatMore (turn : Goal) (most : Option Nat) : Nat → Nat → Option Nat → Memory → Memory
  | 0, _, _, m => m
  | fuel + 1, count, last, m =>
    if mayRepeat most count last m.cursor then
      let (found, next) := turn m.cursor m
      if found then repeatMore turn most fuel (count + 1) (some m.cursor) next
      else { next with ends := m.ends }
    else m

/-- The end of a part that is matched for itself. -/
def stopHere : Rest :=
  ⟨none, fun place m => (true, m.moveTo place)⟩

/-- Matches a node from a place on, before a goal. It is `repeated` if it stands in a repetition
    that may give back turns. -/
def Node.run (subject : Subject) : Node → Bool → Rest → Goal
  | empty, _, rest, place, m => rest.goal place m
  | single test, _, rest, place, m =>
    if passes subject test place then rest.goal (place + 1) m else (false, m)
  | position condition, _, rest, place, m =>
    if condition.holds subject place then rest.goal place m else (false, m)
  | sequence first second, repeated, rest, place, m =>
    run subject first repeated (rest.after second (run subject second repeated rest)) place m
  | either first second, repeated, rest, place, m =>
    let rest : Rest := ⟨none, rest.goal⟩
    let (found, next) := tryAlternative subject first (run subject first repeated rest) place m
    if found then (true, next)
    else
      let next := next.restore repeated m.ends
      if second.isEither then run subject second repeated rest place next
      else
        let (found, last) :=
          tryAlternative subject second (run subject second repeated rest) place next
        if found then (true, last) else (false, last.restore repeated m.ends)
  | group none body, repeated, rest, place, m => run subject body repeated rest place m
  | scope body, repeated, rest, place, m => run subject body repeated rest place m
  | group (some number) body, repeated, rest, place, m =>
    run subject body repeated
      ⟨none, fun last m => rest.goal last (m.mark (2 * number - 1) last)⟩ place
      (m.mark (2 * number - 2) place)
  | atomic body, repeated, rest, place, m =>
    let (found, next) := run subject body repeated stopHere place (m.moveTo place)
    if found then rest.goal next.cursor next else (false, next.moveTo place)
  | repetition greed least most body, repeated, rest, place, m =>
    match body.single? with
    | some test => repeatSingle subject test repeated greed least most rest place m
    | none =>
      let fuel := least + (subject.size + 2) * (subject.size + 2)
      match greed with
      | .greedy =>
        repeatGreedy (run subject body true) least most rest.goal fuel 0 none place m
      | .lazy =>
        repeatLazy (run subject body true) repeated least most rest.goal fuel 0 none place m
      | .possessive =>
        let turn := run subject body repeated stopHere
        let (found, next) := repeatLeast turn least (m.moveTo place)
        if found then
          let next := repeatMore turn most fuel least none next
          rest.goal next.cursor next
        else (false, next.moveTo place)
  | back number _ fold, _, rest, place, m =>
    match m.captured? number with
    | none => (false, m)
    | some (first, last) =>
      let count := last - first
      if place + count ≤ subject.size && sameText subject fold count first place then
        rest.goal (place + count) m
      else (false, m)
  | choice number yes no, repeated, rest, place, m =>
    if (m.captured? number).isSome then
      run subject yes repeated (match no with | empty => rest | _ => ⟨none, rest.goal⟩) place m
    else run subject no repeated rest place m
  | look behind negated body, repeated, rest, place, m =>
    let width := if behind then body.width.low else 0
    if place < width then if negated then rest.goal place m else (false, m)
    else
      let start := place - width
      let (found, next) := run subject body repeated stopHere start (m.moveTo start)
      match negated, found with
      | false, false | true, true => (false, next)
      | false, true => rest.goal place next
      | true, false => rest.goal place (next.restore repeated m.ends)

/-- What a search can find. -/
inductive Finding
  | nothing
  | occurrence
  /-- An occurrence in which a group would end before its beginning. -/
  | crossedGroup
  deriving DecidableEq

/-- The memory after a match from a place on. -/
def matchAt? (pattern : Pattern) (subject : Subject) (place : Nat) : Option Memory :=
  match pattern.root.run subject false stopHere place ⟨place, #[]⟩ with
  | (true, m) => some m
  | (false, _) => none

/-- Searches a text from its beginning. -/
def search (pattern : Pattern) (text : Text) : Finding :=
  let subject := text.toArray
  match (pattern.starts subject.size (pointAt? subject)).findSome? (pattern.matchAt? subject) with
  | none => .nothing
  | some m => if m.isOrderly then .occurrence else .crossedGroup

end RecordFilter.Pattern
