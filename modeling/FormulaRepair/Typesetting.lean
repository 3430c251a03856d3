import FormulaRepair.Fault
import FormulaRepair.Formula
import FormulaRepair.Typesetting.Braces
import FormulaRepair.Typesetting.UnknownCommand

/-! # Typesetting formulas

A typesetter turns a formula into markup or raises a fault, and may change the state around it while
it runs. A renderer is what validation asks: it gives markup or says why there is none. Checking a
typesetter makes a renderer of it, which looks at the braces first and searches the markup for
commands that came back unchanged.
-/

namespace FormulaRepair

/-- A formula to be typeset, inline or on a line of its own. -/
structure Sample where
  latex : Text
  display : Bool
deriving DecidableEq, Repr, Inhabited

/-- Why a formula has no markup. -/
inductive Refusal
  /-- The formula does not typeset. -/
  | rejected (message : Text)
  /-- The renderer itself failed. -/
  | crashed (fault : Fault)
deriving DecidableEq, Repr, Inhabited

/-- Turns a formula into markup, or raises a fault. -/
abbrev Typesetter (state : Type) := Sample → StateM state (Except Fault Text)

/-- Turns a formula into markup, or says why there is none. -/
abbrev Renderer (state : Type) := Sample → StateM state (Except Refusal Text)

/-- The message for a command that no typesetter knows. -/
def UnknownCommand.message (name : Text) : Text := "Undefined control sequence: \\".toList ++ name

/-- What the outcome of a typesetter says about a formula whose braces match. -/
def Refusal.ofOutcome : Except Fault Text → Except Refusal Text
  | .error fault => .error (.rejected fault.summary)
  | .ok markup =>
      match UnknownCommand.find? markup with
      | some name => .error (.rejected (UnknownCommand.message name))
      | none => .ok markup

/-- The renderer that checks braces, typesets, and looks for unknown commands. -/
def Typesetter.checked {state : Type} (typesetter : Typesetter state) : Renderer state := fun sample =>
  match Braces.check sample.latex with
  | .error problem => pure (.error (.rejected problem.message))
  | .ok () => do
      let outcome ← typesetter sample
      return Refusal.ofOutcome outcome

/-- The message of a formula that was rejected without one. -/
def Refusal.silentMessage : Text := "Render failed".toList

/-- The verdict on a formula by the outcome of its rendering. -/
def Verdict.ofRendering : Except Refusal Text → Verdict
  | .ok markup => { success := true, markup := some markup }
  | .error (.rejected message) =>
      { success := false
        errorMessage := some (if message.isEmpty then Refusal.silentMessage else message) }
  | .error (.crashed fault) => { success := false, errorMessage := some fault.report }

/-- How a formula is typeset. -/
def Formula.sample (formula : Formula) : Sample := ⟨formula.raw, formula.delimiter.isDisplay⟩

end FormulaRepair
