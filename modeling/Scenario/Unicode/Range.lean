/-!
# Ranges — sets of characters as sorted intervals

Tables of character properties list the code points of a set as closed
intervals in rising order. `inRanges` looks a code point up and stops at
the first interval that does not end before it.
-/

namespace Scenario
namespace Unicode

/-- Closed intervals of code points, in rising order. -/
abbrev Ranges := List (Nat × Nat)

/-- Whether a code point lies in one of the intervals. -/
def inRanges : Ranges → Nat → Bool
  | [], _ => false
  | (low, high) :: rest, n => if n ≤ high then decide (low ≤ n) else inRanges rest n

/-- Whether a character lies in one of the intervals. -/
def within (ranges : Ranges) (c : Char) : Bool := inRanges ranges c.toNat

end Unicode
end Scenario
