import FormulaRepair.Formula
import FormulaRepair.LineCounter
import FormulaRepair.Scan.Piece

/-! # The formulas of a Markdown text

A text is first cut into pieces, and the formulas among the pieces are then numbered and placed:
each gets an id by its rank, the span of its piece, the line of its first character, and its content
without the blanks at both ends.
-/

namespace FormulaRepair.Scan

/-- All pieces of a text, up to its end or to code that is never closed. -/
def pieces (mode : Mode) (text : Text) : List Piece :=
  match _read : read? mode text with
  | none => []
  | some piece => piece :: pieces piece.next piece.rest
termination_by text.length
decreasing_by exact length_rest_lt _read

/-- The id of the formula with the given rank, counted from zero. -/
def formulaId (rank : Nat) : Text := "formula-".toList ++ Text.ofNat rank

/-- The formulas among pieces that start at the given offset, numbered from the given rank. -/
def place (lines : LineCounter) (offset rank : Nat) : List Piece → List Formula
  | [] => []
  | piece :: rest =>
      let stop := offset + piece.taken.length
      match piece.reading with
      | .formula delimiter content =>
          let (line, lines) := lines.lineAt offset
          { id := formulaId rank
            raw := content.strip
            rawWithDelimiters := piece.taken
            delimiter := delimiter
            startOffset := offset
            endOffset := stop
            lineNumber := line } :: place lines stop (rank + 1) rest
      | _ => place lines stop rank rest

/-- The formulas of a text, from left to right. -/
def formulas (text : Text) : List Formula :=
  place { text := text } 0 0 (pieces .prose text)

end FormulaRepair.Scan
