/-!
# Rendezvous.Text.Ranges

Sets of characters as ranges of code points.
-/

namespace Rendezvous.Text

/-- Whether a code point lies in one of the ranges, which ascend. -/
def inRanges (ranges : List (Nat × Nat)) (n : Nat) : Bool :=
  match ranges with
  | [] => false
  | (first, last) :: rest => if n < first then false else n ≤ last || inRanges rest n

end Rendezvous.Text
