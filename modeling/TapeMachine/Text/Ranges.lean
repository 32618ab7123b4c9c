/-!
# Ranges of characters

Properties of characters are kept as lists of ranges of code points.
-/

namespace TapeMachine.Text

/-- Whether a number is in one of some ranges, each with its first and last number. -/
def inRanges (ranges : List (Nat × Nat)) (n : Nat) : Bool :=
  ranges.any fun r => r.1 ≤ n && n ≤ r.2

end TapeMachine.Text
