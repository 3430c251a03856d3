import FormulaRepair.Text.Basic

/-! # Sets of characters as ranges

A property of characters that follows no formula is written down as the ranges of code points that
have it, both ends included.
-/

namespace FormulaRepair.Text

/-- Ranges of code points, from the first to the last of each. -/
abbrev CodeRanges := Array (Nat × Nat)

/-- Does a character lie in one of the ranges? -/
def CodeRanges.has (ranges : CodeRanges) (c : Char) : Bool :=
  ranges.any fun (first, last) => first ≤ c.toNat && c.toNat ≤ last

end FormulaRepair.Text
