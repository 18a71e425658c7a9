/-!
# Ranges of code points

Properties of characters are tables of closed ranges of code points.
-/

namespace NodeWarden.Text

/-- Whether a code point lies in one of the closed ranges. -/
def inRanges (ranges : List (Nat × Nat)) (n : Nat) : Bool :=
  ranges.any fun r => r.1 ≤ n && n ≤ r.2

end NodeWarden.Text
