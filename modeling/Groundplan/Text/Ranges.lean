/-!
# Sets of code points

A set of code points is a list of closed ranges.
-/

namespace Groundplan.Text

/-- Whether a code point lies in one of some ranges. -/
def inRanges (ranges : List (Nat × Nat)) (n : Nat) : Bool :=
  ranges.any fun r => r.1 ≤ n && n ≤ r.2

end Groundplan.Text
