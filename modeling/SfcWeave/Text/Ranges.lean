/-!
# Sets of characters

A set of characters is given by the ranges of its code points, in increasing order.
-/

namespace SfcWeave.Text

/-- Is a code point in one of the ranges? -/
def inRanges (ranges : List (Nat × Nat)) (n : Nat) : Bool :=
  match ranges with
  | [] => false
  | (low, high) :: rest => if n < low then false else n ≤ high || inRanges rest n

end SfcWeave.Text
