/-!
Sets of characters given as ascending lists of closed ranges of code points.
-/

namespace PerlVet.Text

/-- Whether a code point lies in one of the ascending ranges; the search stops at the first range
that ends at or after it. -/
def inRanges : List (Nat × Nat) → Nat → Bool
  | [], _ => false
  | (lo, hi) :: rest, n => if n ≤ hi then decide (lo ≤ n) else inRanges rest n

/-- The ranges are non-empty, ascending and do not touch. -/
def rangesApart : List (Nat × Nat) → Bool
  | [] => true
  | [(lo, hi)] => decide (lo ≤ hi)
  | (lo, hi) :: (lo', hi') :: rest =>
    decide (lo ≤ hi) && decide (hi + 1 < lo') && rangesApart ((lo', hi') :: rest)

end PerlVet.Text
