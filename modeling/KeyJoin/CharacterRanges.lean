/-!
# Sets of characters as ascending ranges

A set of characters is given by the closed intervals of code points that it
consists of, in ascending order.  Membership then stops at the first interval
that ends at or after the character, so that low code points are decided
within a few comparisons whatever the length of the table.
-/

namespace KeyJoin

/-- Membership in a set given by ascending closed intervals. -/
def inRanges : List (Nat × Nat) → Nat → Bool
  | [], _ => false
  | (first, last) :: ranges, n =>
    if n < first then false
    else if n ≤ last then true
    else inRanges ranges n

end KeyJoin
