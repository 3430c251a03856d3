import FormulaRepair.Text.Basic

/-! # Pieces of a text between signed bounds

A bound counts from the front, or from the end when it is negative, and is clamped to the text. A
piece whose start lies behind its stop is empty.
-/

namespace FormulaRepair.Text

/-- The position that a signed bound denotes in a text of the given length. -/
def bound (length : Nat) (index : Int) : Nat :=
  if index < 0 then (index + length).toNat else min index.toNat length

@[simp] theorem bound_natCast (length index : Nat) : bound length index = min index length := by
  unfold bound
  split <;> omega

/-- The part of the text before a bound. -/
def upTo (text : Text) (stop : Int) : Text := text.take (bound text.length stop)

/-- The part of the text from a bound on. -/
def startingAt (text : Text) (start : Int) : Text := text.drop (bound text.length start)

/-- The part of the text between two bounds. -/
def slice (text : Text) (start stop : Int) : Text :=
  let first := bound text.length start
  (text.drop first).take (bound text.length stop - first)

end FormulaRepair.Text
