import FormulaRepair.Text.Blank

/-! # Faults of outside components

A typesetter or a provider may fail in ways that this library knows nothing about. Such a fault is
kept as the name of its kind and its message.
-/

namespace FormulaRepair

/-- A fault raised outside of this library. -/
structure Fault where
  kind : Text
  message : Text
deriving DecidableEq, Repr, Inhabited

namespace Fault

/-- The kind, followed by the message when there is more in it than blanks. -/
def summary (fault : Fault) : Text :=
  let detail := fault.message.strip
  if detail.isEmpty then fault.kind else fault.kind ++ [':', ' '] ++ detail

/-- The kind and the message as it is. -/
def report (fault : Fault) : Text := fault.kind ++ [':', ' '] ++ fault.message

end Fault

end FormulaRepair
