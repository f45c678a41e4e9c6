/-!
# Ranges of code points
-/

namespace FormCodemod.Text

/-- The code point is in one of the ranges. -/
def inRanges (ranges : List (Nat × Nat)) (code : Nat) : Bool :=
  ranges.any fun r => r.1 ≤ code && code ≤ r.2

end FormCodemod.Text
