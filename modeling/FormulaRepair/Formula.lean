import FormulaRepair.Delimiter

/-! # Formulas of a document, their verdicts and their fixes

The records that the rest of the library passes around. Offsets are half-open positions in the
document. They are integers and not naturals, because a formula may also be handed in from outside
with any span; the scanner itself yields spans that lie in its text.
-/

namespace FormulaRepair

/-- What typesetting a formula came to. -/
structure Verdict where
  success : Bool
  errorMessage : Option Text := none
  markup : Option Text := none
deriving DecidableEq, Repr, Inhabited

/-- One formula found in a version of a document. -/
structure Formula where
  id : Text
  raw : Text
  rawWithDelimiters : Text
  delimiter : Delimiter
  startOffset : Int
  endOffset : Int
  lineNumber : Int
  isValid : Bool := true
  errorMessage : Option Text := none
deriving DecidableEq, Repr, Inhabited

/-- The formula with its validity and error message taken from a verdict. -/
def Formula.withVerdict (formula : Formula) (verdict : Verdict) : Formula :=
  { formula with isValid := verdict.success, errorMessage := verdict.errorMessage }

/-- How far the decision on a fix has come. -/
inductive FixStatus
  | pending
  | accepted
  | rejected
deriving DecidableEq, Repr, Inhabited

namespace FixStatus

/-- The name under which a status is written down. -/
def name : FixStatus → Text
  | pending => "pending".toList
  | accepted => "accepted".toList
  | rejected => "rejected".toList

/-- The status of a name. -/
def ofName? (wanted : Text) : Option FixStatus :=
  [pending, accepted, rejected].find? (·.name == wanted)

end FixStatus

/-- A replacement proposed for one formula. The provenance says who proposed it. -/
structure Fix where
  formulaId : Text
  replacedRaw : Text
  fixedRaw : Text
  fixedWithDelimiters : Text
  fixedIsValid : Bool
  fixedErrorMessage : Option Text := none
  status : FixStatus := .pending
  provenance : Text := []
deriving DecidableEq, Repr, Inhabited

end FormulaRepair
