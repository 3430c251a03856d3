import FormulaRepair.Cache
import FormulaRepair.Holds

/-! # Validating formulas through the cache

A sample is rendered only when the cache has no verdict on it. The verdict is kept after the renderer
has finished, whatever the renderer did to the cache in the meantime.
-/

namespace FormulaRepair

variable {state : Type} [Holds Cache state]

/-- The verdict on a sample, from the cache or else from the renderer. -/
def Renderer.validate (renderer : Renderer state) (sample : Sample) : StateM state Verdict := do
  match (← Holds.read Cache).get? sample with
  | some verdict => return verdict
  | none =>
      let verdict := Verdict.ofRendering (← renderer sample)
      Holds.update fun cache : Cache => cache.put sample verdict
      return verdict

/-- The formula with its verdict filled in. -/
def Renderer.validateFormula (renderer : Renderer state) (formula : Formula) :
    StateM state Formula := do
  return formula.withVerdict (← renderer.validate formula.sample)

/-- The formulas with their verdicts filled in, one after the other. -/
def Renderer.validateAll (renderer : Renderer state) : List Formula → StateM state (List Formula)
  | [] => return []
  | formula :: formulas => do
      let checked ← renderer.validateFormula formula
      return checked :: (← renderer.validateAll formulas)

end FormulaRepair
