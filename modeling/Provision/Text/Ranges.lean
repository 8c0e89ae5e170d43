/-!
# Classes of characters

A class of characters is given by closed intervals of code points, in increasing order.
-/

namespace Provision.Text

/-- Whether a character lies in one of some intervals. -/
def inRanges (ranges : List (Nat × Nat)) (c : Char) : Bool :=
  ranges.any fun (first, last) => first ≤ c.toNat && c.toNat ≤ last

end Provision.Text
