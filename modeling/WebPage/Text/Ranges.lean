/-!
# Ranges of code points

Unicode properties are kept as lists of ranges.

## Main definitions

* `inRanges`: whether a code point lies in one of them
-/

namespace WebPage.Text

/-- Whether `n` lies in one of the ranges, both ends included. -/
def inRanges (ranges : List (Nat × Nat)) (n : Nat) : Bool :=
  ranges.any fun (first, last) => first ≤ n && n ≤ last

end WebPage.Text
