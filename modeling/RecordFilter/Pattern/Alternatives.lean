import RecordFilter.Pattern.CharSet

/-!
Alternatives in their simplest form.

What all alternatives begin with is taken out in front of them, and alternatives that are single
characters are one character set.
-/

namespace RecordFilter.Pattern

/-- Whether two parts are the same test, condition on a place, or reference to a group. Other parts
    are never taken for one another. -/
def Node.isSamePart : Node → Node → Bool
  | single a, single b => a = b
  | position a, position b => a = b
  | back a _ _, back b _ _ => a = b
  | _, _ => false

/-- The parts that an alternative begins with in common with all others, what remains of it, and
    what remains of the others. -/
def takeShared : List Node → List (List Node) → List Node × List Node × List (List Node)
  | [], others => ([], [], others)
  | part :: parts, others =>
    if others.all fun other => other.head?.any part.isSamePart then
      let (shared, first, others) := takeShared parts (others.map List.tail)
      (part :: shared, first, others)
    else ([], part :: parts, others)

/-- The members of a set that an alternative stands for. -/
def membersOf? : List Node → Option (List SetItem)
  | [.single (.letter false point _)] => some [.point point]
  | [.single (.set false items ..)] => some items
  | _ => none

/-- The choice between alternatives. One that is nothing but a choice itself stays apart. -/
def chooseOf : List Node → Node
  | [] => .empty
  | [last] => if last.isEither then .scope last else last
  | node :: nodes => .either (if node.isEither then .scope node else node) (chooseOf nodes)

/-- The parts that alternatives stand for under the flags. -/
def partsOf (flags : Flags) : List (List Node) → List Node
  | [] => []
  | [parts] => parts
  | parts :: others =>
    let (shared, first, others) := takeShared parts others
    match (first :: others).mapM membersOf? with
    | some members =>
      let items := members.flatten.eraseDups
      shared ++ [.single (.set false items (setFold flags.fold items) flags.plainOnly)]
    | none => shared ++ [chooseOf ((first :: others).map Node.ofItems)]

end RecordFilter.Pattern
