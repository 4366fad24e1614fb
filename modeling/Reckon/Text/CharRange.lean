/-
Module: Reckon.Text.CharRange
Purpose: Sets of characters given as closed ranges of code points in ascending order.
Main exports: inRanges
-/

namespace Reckon.Text

/-- Whether `n` lies in one of the closed ranges. The ranges stand in ascending order, so a code
point below the first of them lies in none. -/
def inRanges : List (Nat × Nat) → Nat → Bool
  | [], _ => false
  | (low, high) :: rest, n => if n < low then false else n ≤ high || inRanges rest n

end Reckon.Text
