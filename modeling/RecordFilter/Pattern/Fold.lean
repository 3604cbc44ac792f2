import RecordFilter.Text.Case

/-!
Letters that a pattern takes for one another when case is ignored.

Two letters are alike when their small forms are. A few small letters are variants of one letter,
such as the two forms of sigma, and are alike as well.
-/

namespace RecordFilter.Pattern

/-- The small letters that are variants of one letter, by code point. -/
def variantTable : List (Nat × List Nat) :=
  [(105, [305]), (115, [383]), (181, [956]), (305, [105]), (383, [115]), (837, [953, 8126]),
   (912, [8147]), (944, [8163]), (946, [976]), (949, [1013]), (952, [977]), (953, [837, 8126]),
   (954, [1008]), (956, [181]), (960, [982]), (961, [1009]), (962, [963]), (963, [962]),
   (966, [981]), (976, [946]), (977, [952]), (981, [966]), (982, [960]), (1008, [954]),
   (1009, [961]), (1013, [949]), (1074, [7296]), (1076, [7297]), (1086, [7298]), (1089, [7299]),
   (1090, [7300, 7301]), (1098, [7302]), (1123, [7303]), (7296, [1074]), (7297, [1076]),
   (7298, [1086]), (7299, [1089]), (7300, [1090, 7301]), (7301, [1090, 7300]), (7302, [1098]),
   (7303, [1123]), (7304, [42571]), (7777, [7835]), (7835, [7777]), (8126, [837, 953]),
   (8147, [912]), (8163, [944]), (42571, [7304]), (64261, [64262]), (64262, [64261])]

/-- The small form of a code point, as a single code point. -/
def lowerPoint (point : Nat) : Nat :=
  if point = 0x130 then 0x69
  else if point < 128 then (Char.ofNat point).toLower.toNat
  else (Text.lowerRuns.findSome? (·.other? point)).getD point

/-- The capital form of a code point, or the first code point of that form. -/
def upperPoint (point : Nat) : Nat :=
  if point < 128 then (Char.ofNat point).toUpper.toNat
  else
    match Text.upperSequences.lookup point with
    | some (first :: _) => first
    | _ => (Text.upperRuns.findSome? (·.other? point)).getD point

/-- The other variants of a small letter. -/
def variants (point : Nat) : List Nat :=
  (variantTable.lookup point).getD []

/-- Whether the code point is a letter with another case. -/
def isCasedPoint (point : Nat) : Bool :=
  lowerPoint point != point || upperPoint point != point

/-- The code points whose small form is the given one. -/
def capitalsOf (point : Nat) : List Nat :=
  let own := if lowerPoint point = point then [point] else []
  let others := Text.lowerRuns.filterMap fun run =>
    let capital := ((point : Int) - run.distance).toNat
    if run.other? capital = some point then some capital else none
  let plain := if 97 ≤ point ∧ point ≤ 122 then [point - 32] else []
  own ++ others ++ plain ++ if point = 0x69 then [0x130] else []

/-- How letters are compared. -/
inductive Fold
  /-- As they are. -/
  | exact
  /-- Without regard to the case of the letters A to Z. -/
  | plain
  /-- Without regard to the case of any letter. -/
  | unicode
  deriving DecidableEq

/-- The small form of a code point under a way of comparing. -/
def Fold.lower (fold : Fold) (point : Nat) : Nat :=
  match fold with
  | exact => point
  | plain => if 65 ≤ point ∧ point ≤ 90 then point + 32 else point
  | unicode => lowerPoint point

/-- Whether a code point has another case under a way of comparing. -/
def Fold.isCased (fold : Fold) (point : Nat) : Bool :=
  match fold with
  | exact => false
  | plain => (65 ≤ point && point ≤ 90) || (97 ≤ point && point ≤ 122)
  | unicode => isCasedPoint point

/-- Whether a code point is taken for a letter of a pattern. -/
def Fold.alike (fold : Fold) (letter point : Nat) : Bool :=
  match fold with
  | exact => letter == point
  | plain => fold.lower letter == fold.lower point
  | unicode =>
    if !isCasedPoint letter then letter == point
    else
      let small := lowerPoint letter
      lowerPoint point == small || (variants small).contains (lowerPoint point)

end RecordFilter.Pattern
