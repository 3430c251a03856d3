import FormulaRepair.Text.Slice

/-! # The surroundings of a span

A span together with some characters on each side, as far as the text reaches.
-/

namespace FormulaRepair

/-- The part of a text from `reach` characters before a span to `reach` characters after it. -/
def Text.excerpt (text : Text) (start stop reach : Int) : Text :=
  Text.slice text (max 0 (start - reach)) (min text.length (stop + reach))

end FormulaRepair
