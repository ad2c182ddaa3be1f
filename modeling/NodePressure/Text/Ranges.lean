/-!
# NodePressure.Text.Ranges - sets of code points

A set of characters is given by ranges of code points, each by its first and its last one.
-/

namespace NodePressure.Text

/-- Whether a code point lies in one of the ranges. -/
def inRanges (ranges : List (Nat × Nat)) (n : Nat) : Bool :=
  ranges.any fun (first, last) => first ≤ n && n ≤ last

end NodePressure.Text
