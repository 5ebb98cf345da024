/-! # Ranges of code points

    A property of characters is given by the ranges of code points that have it, in ascending
    order and apart from each other. All tables are those of Unicode 16.0.
-/

namespace CallAtlas.Text

/-- Ranges of code points, both ends included. -/
abbrev CodeRanges := List (Nat × Nat)

namespace CodeRanges

/-- Whether a character lies in one of the ranges. The search ends at the first range that
    does not end before the character. -/
def contains : CodeRanges → Char → Bool
  | [], _ => false
  | (low, high) :: rest, c => if high < c.toNat then contains rest c else low ≤ c.toNat

end CodeRanges

end CallAtlas.Text
