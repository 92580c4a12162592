/-!
# Sets of code points

A property of characters is given by the ranges of code points that have it,
both ends included.
-/

namespace PodPolicy.Text

abbrev CodePoints := List (Nat × Nat)

def CodePoints.contains (ranges : CodePoints) (c : Char) : Bool :=
  ranges.any fun (first, last) => first ≤ c.toNat && c.toNat ≤ last

end PodPolicy.Text
