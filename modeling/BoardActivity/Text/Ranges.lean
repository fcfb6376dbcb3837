/-!
# Ranges of code points

Properties of characters are given by tables of ranges with both ends, in increasing order.
-/

namespace BoardActivity.Text

/-- Ranges of code points with both ends. -/
abbrev Ranges := List (Nat × Nat)

namespace Ranges

def contains (ranges : Ranges) (c : Char) : Bool :=
  ranges.any fun (low, high) => low ≤ c.toNat && c.toNat ≤ high

end Ranges

end BoardActivity.Text
