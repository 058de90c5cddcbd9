/-!
# Classes of characters

A class of characters is a list of ranges of code points, both ends belonging
to it.
-/

namespace RecordGrid.Text

/-- Whether the code point of `c` lies in one of the ranges. -/
def inRanges (ranges : List (Nat × Nat)) (c : Char) : Bool :=
  ranges.any fun r => decide (r.1 ≤ c.toNat) && decide (c.toNat ≤ r.2)

end RecordGrid.Text
