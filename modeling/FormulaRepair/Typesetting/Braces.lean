import FormulaRepair.Text.Basic

/-! # Balanced braces

Formulas must close every brace that they open. A backslash takes the next character with it, so
braces behind a backslash do not count.
-/

namespace FormulaRepair.Braces

/-- How the braces of a formula fail to match. -/
inductive Problem
  /-- The brace at this position closes nothing. -/
  | unexpectedClose (position : Nat)
  /-- A brace is still open at the end. -/
  | unclosed
deriving DecidableEq, Repr, Inhabited

/-- The message for braces that do not match. -/
def Problem.message : Problem → Text
  | unexpectedClose position => "Unexpected '\x7d' at position ".toList ++ Text.ofNat position
  | unclosed => "Expected '\x7d', got 'EOF' at end of input".toList

/-- Check the braces from a position on, where `depth` of them are open. -/
def checkFrom (position depth : Nat) : Text → Except Problem Unit
  | [] => if depth = 0 then .ok () else .error .unclosed
  | ['\\'] => checkFrom (position + 2) depth []
  | '\\' :: _ :: rest => checkFrom (position + 2) depth rest
  | c :: rest =>
      if c = '\x7b' then checkFrom (position + 1) (depth + 1) rest
      else if c = '\x7d' then
        match depth with
        | 0 => .error (.unexpectedClose position)
        | depth + 1 => checkFrom (position + 1) depth rest
      else checkFrom (position + 1) depth rest

/-- Check that every brace of a formula has its partner. -/
def check (latex : Text) : Except Problem Unit := checkFrom 0 0 latex

end FormulaRepair.Braces
