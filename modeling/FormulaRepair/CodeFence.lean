import FormulaRepair.Text.Basic

/-! # The fence around a code block

A Markdown document and the answer of a model fence their code alike.
-/

namespace FormulaRepair

/-- The run of backticks that opens and closes a code block. -/
def codeFence : Text := ['`', '`', '`']

theorem codeFence_ne_nil : codeFence ≠ [] := by simp [codeFence]

end FormulaRepair
