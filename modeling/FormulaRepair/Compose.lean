import FormulaRepair.Formula
import FormulaRepair.Text.Slice

/-! # Writing accepted fixes into a document

Every accepted fix replaces the span of its formula. The replacements are made from the last span to
the first, so that the offsets of the spans still to be replaced point into text that has not moved.
Spans that start together are taken in the order of their formulas.
-/

namespace FormulaRepair

/-- A text to be written in place of a span. -/
structure Replacement where
  start : Int
  stop : Int
  text : Text
deriving DecidableEq, Repr, Inhabited

namespace Replacement

/-- Write the replacement into a content. -/
def apply (replacement : Replacement) (content : Text) : Text :=
  Text.upTo content replacement.start ++ replacement.text ++
    Text.startingAt content replacement.stop

/-- The replacement that a formula calls for: that of its fix, when it has an accepted one. -/
def ofFormula? (fixOf : Text → Option Fix) (formula : Formula) : Option Replacement :=
  match fixOf formula.id with
  | some fix =>
      if fix.status = .accepted then
        some ⟨formula.startOffset, formula.endOffset, fix.fixedWithDelimiters⟩
      else none
  | none => none

/-- The replacements from the last start to the first. -/
def lastFirst (replacements : List Replacement) : List Replacement :=
  replacements.mergeSort fun first second => second.start ≤ first.start

/-- Make all replacements, from the last span to the first. -/
def applyAll (content : Text) (replacements : List Replacement) : Text :=
  (lastFirst replacements).foldl (fun content replacement => replacement.apply content) content

end Replacement

/-- A content with the accepted fixes of its formulas written into it. -/
def compose (content : Text) (formulas : List Formula) (fixOf : Text → Option Fix) : Text :=
  Replacement.applyAll content (formulas.filterMap (Replacement.ofFormula? fixOf))

end FormulaRepair
