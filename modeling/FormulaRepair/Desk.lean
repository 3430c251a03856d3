import FormulaRepair.Compose
import FormulaRepair.Pool
import FormulaRepair.Registry
import FormulaRepair.Scan

/-! # The desk on which a document is repaired

A desk holds one document with its formulas, the registry of their fixes, the cache and the pool for
validations, and the marks of the repairs that are running. Loading a document starts a new epoch
and an empty registry. Typesetters and providers may act on the desk while an operation waits for
them, so each operation looks again at the epoch before it keeps a result.
-/

namespace FormulaRepair

/-- A document as it was loaded and as it has been repaired. The epoch counts the loads. -/
structure Document where
  path : Option Text := none
  loaded : Text := []
  current : Text := []
  epoch : Nat := 0
  formulas : List Formula := []
deriving DecidableEq, Repr, Inhabited

/-- A document on a desk, with all that is needed to repair it. `outside` is the state of the
components around the desk. Analyses go through the pool when `pooled` is set. -/
structure Desk (Outside : Type) where
  cache : Cache
  pool : Pool
  pooled : Bool
  document : Document := {}
  registry : Registry := {}
  inFlight : List Text := []
  outside : Outside

namespace Desk

variable {Outside : Type}

instance : Holds Cache (Desk Outside) where
  view := cache
  replace cache desk := { desk with cache := cache }
  view_replace _ _ := rfl
  replace_view _ := rfl
  replace_replace _ _ _ := rfl

instance : Holds Pool (Desk Outside) where
  view := pool
  replace pool desk := { desk with pool := pool }
  view_replace _ _ := rfl
  replace_view _ := rfl
  replace_replace _ _ _ := rfl

instance : Holds Registry (Desk Outside) where
  view := registry
  replace registry desk := { desk with registry := registry }
  view_replace _ _ := rfl
  replace_view _ := rfl
  replace_replace _ _ _ := rfl

/-- Open an empty registry for formulas, in place of the one on the desk. -/
def openRegistry (desk : Desk Outside) (formulas : List Formula) : Desk Outside :=
  { desk with registry := { edition := desk.registry.edition + 1, formulas := formulas } }

/-- Put a document on the desk, in a new epoch and with an empty registry. -/
def load (desk : Desk Outside) (path : Option Text) (content : Text) : Desk Outside :=
  let epoch := desk.document.epoch + 1
  { desk.openRegistry [] with
    document := { path := path, loaded := content, current := content, epoch := epoch }
    pool := desk.pool.setEpoch epoch }

/-- Replace the formulas of the document, with an empty registry for them. -/
def setFormulas (desk : Desk Outside) (formulas : List Formula) : Desk Outside :=
  { desk.openRegistry formulas with document := { desk.document with formulas := formulas } }

/-- The formulas of the document that do not typeset. -/
def errors (desk : Desk Outside) : List Formula := desk.document.formulas.filter (!·.isValid)

/-- Validate formulas one after the other or in the pool. There is no answer when the pool found a
response old. -/
def check (renderer : Renderer (Desk Outside)) (formulas : List Formula) :
    StateM (Desk Outside) (Except PoolClosed (Option (List Formula))) := do
  if (← get).pooled then Pool.validateFormulas renderer formulas
  else return .ok (some (← renderer.validateAll formulas))

/-- Find and validate the formulas of the document, and keep them unless the document has been
replaced in the meantime. The answer is what was kept. -/
def analyze (renderer : Renderer (Desk Outside)) :
    StateM (Desk Outside) (Except PoolClosed (List Formula)) := do
  let before := (← get).document
  match ← check renderer (Scan.formulas before.loaded) with
  | .error closed => return .error closed
  | .ok none => return .ok []
  | .ok (some formulas) =>
      if (← get).document.epoch = before.epoch then
        modify (·.setFormulas formulas)
        return .ok formulas
      else return .ok []

/-- Propose a replacement typed by hand. -/
def proposeManual (renderer : Renderer (Desk Outside)) (id replacement : Text) :
    StateM (Desk Outside) (Except UnknownFormula Fix) :=
  renderer.propose id replacement Fix.manual

/-- Write the accepted fixes into the current content, starting from the one that was loaded. -/
def applyAccepted (desk : Desk Outside) : Desk Outside :=
  { desk with
    document := { desk.document with
      current := compose desk.document.loaded desk.document.formulas desk.registry.fix? } }

end Desk

end FormulaRepair
