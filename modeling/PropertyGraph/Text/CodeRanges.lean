/-!
# Sets of characters given by ranges of code points

A Unicode property is a list of ranges of code points in ascending order.  `CodeRanges.contains`
walks it and stops at the first range that lies beyond the character.
-/

namespace PropertyGraph

/-- Ranges of code points, both ends included, in ascending order. -/
abbrev CodeRanges := List (Nat × Nat)

/-- The code point `n` lies in one of the ranges. -/
def CodeRanges.contains : CodeRanges → Nat → Bool
  | [], _ => false
  | (low, high) :: rest, n => if n < low then false else n ≤ high || CodeRanges.contains rest n

end PropertyGraph
