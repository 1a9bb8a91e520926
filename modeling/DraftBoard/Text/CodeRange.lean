/-!
# Ranges of code points

Properties of characters are given as lists of ranges.
-/

namespace DraftBoard.Text

/-- Whether a code point lies in one of the ranges, both ends included. -/
def inRanges (ranges : List (Nat × Nat)) (code : Nat) : Bool :=
  ranges.any fun (first, last) => first ≤ code && code ≤ last

end DraftBoard.Text
