import FormulaRepair.Text.Basic

/-! # Blank characters

Which characters count as blank, and the removal of blanks at the ends of a text. The class holds
the separators of every script and the control characters that separate lines, fields or records.
-/

namespace FormulaRepair

/-- Spaces, line and paragraph separators, and the separating control characters. -/
def isBlank (c : Char) : Bool :=
  let code := c.toNat
  (0x09 ≤ code && code ≤ 0x0d) || (0x1c ≤ code && code ≤ 0x20) || code == 0x85 || code == 0xa0 ||
    code == 0x1680 || (0x2000 ≤ code && code ≤ 0x200a) || code == 0x2028 || code == 0x2029 ||
    code == 0x202f || code == 0x205f || code == 0x3000

namespace Text

/-- The text without its leading blanks. -/
def stripLeft (text : Text) : Text := text.dropWhile isBlank

/-- The text without its trailing blanks. -/
def stripRight (text : Text) : Text := (text.reverse.dropWhile isBlank).reverse

/-- The text without the blanks at both ends. -/
def strip (text : Text) : Text := stripRight (stripLeft text)

/-- A text of blanks only, the empty one included. -/
def isBlank (text : Text) : Bool := text.all FormulaRepair.isBlank

/-- A text without trailing occurrences of one character. -/
def stripRightOf (unwanted : Char) (text : Text) : Text :=
  (text.reverse.dropWhile (· == unwanted)).reverse

end Text

end FormulaRepair
