/-!
# Ranges of code points

A property of characters is kept as the ranges of code points that have it.
The ranges of a table are in ascending order.
-/

namespace LearningClient.Text

/-- Ranges of code points, first and last included. -/
abbrev Ranges := List (Nat × Nat)

/-- Whether a code point is in one of the ranges. -/
def Ranges.covers (rs : Ranges) (n : Nat) : Bool :=
  rs.any fun (first, last) => first ≤ n && n ≤ last

end LearningClient.Text
