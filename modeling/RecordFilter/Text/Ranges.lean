/-!
Character classes given as ascending tables of closed code point ranges.
-/

namespace RecordFilter.Text

/-- Ascending, disjoint, closed ranges of code points. -/
abbrev Ranges := List (Nat × Nat)

/-- Whether the code point lies in one of the ranges; the scan ends at the first range above it. -/
def Ranges.covers (point : Nat) : Ranges → Bool
  | [] => false
  | (low, high) :: rest => low ≤ point && (point ≤ high || covers point rest)

end RecordFilter.Text
