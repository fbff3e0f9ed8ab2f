/-!
# Ranges of code points

A character property is held as a list of ranges of code points, first
and last included, in increasing order.
-/

namespace TableStruct

namespace Text

/-- The character's code point lies in one of the ranges. -/
def inRanges (ranges : List (Nat × Nat)) (c : Char) : Bool :=
  ranges.any fun r => r.1 ≤ c.toNat && c.toNat ≤ r.2

end Text

end TableStruct
