import FormulaRepair.Desk
import FormulaRepair.Excerpt

/-! # Asking a provider for repairs

A repair shows one invalid formula to a provider and proposes its reply. Each formula has at most one
repair running. What a repair was started for must still be on the desk when the reply comes in:
the same epoch, and a formula with the same id, span and text. A batch repairs formulas in order; a
failure is recorded and the batch goes on.
-/

namespace FormulaRepair

/-- What a provider is shown of a formula. -/
structure RepairRequest where
  latex : Text
  errorMessage : Text
  context : Text := []
  delimiterName : Text
deriving DecidableEq, Repr, Inhabited

/-- A replacement and the model that it came from. -/
structure RepairReply where
  latex : Text
  model : Text
deriving DecidableEq, Repr, Inhabited

/-- A provider of repairs. It may act on the state around it, and fails in ways of its own. -/
structure Provider (state problem : Type) where
  name : Text
  repair : RepairRequest → StateM state (Except problem RepairReply)

/-- Why a repair failed. -/
inductive RepairProblem (problem : Type)
  /-- A repair of the formula is running already. -/
  | running (id : Text)
  /-- The registry has no such formula. -/
  | unknown (formula : UnknownFormula)
  /-- The provider failed. -/
  | provider (problem : problem)
deriving DecidableEq, Repr, Inhabited

/-- The message for a formula that is being repaired already. -/
def RepairProblem.runningMessage (id : Text) : Text := "repair already running for ".toList ++ id

/-- How the repair of one formula of a batch ended. -/
inductive RepairResult (problem : Type)
  | fixed (fix : Fix)
  | failed (problem : RepairProblem problem)
  | stale
deriving DecidableEq, Repr, Inhabited

/-- The result of a single repair as an entry of a batch. -/
def RepairResult.ofRepair {problem : Type} :
    Except (RepairProblem problem) (Option Fix) → RepairResult problem
  | .ok (some fix) => .fixed fix
  | .ok none => .stale
  | .error problem => .failed problem

/-- The entry of a batch for one formula. -/
structure RepairOutcome (problem : Type) where
  formulaId : Text
  result : RepairResult problem
deriving DecidableEq, Repr, Inhabited

/-- What repairs are made with: a renderer, a provider, and how much context the provider is shown. -/
structure Repairer (Outside problem : Type) where
  renderer : Renderer (Desk Outside)
  provider : Provider (Desk Outside) problem
  contextSize : Nat

/-- The size of the context that a setting stands for; a negative one shows none. -/
def Repairer.contextSizeOf (setting : Int) : Nat := setting.toNat

/-- The context when none is asked for. -/
def Repairer.defaultContextSize : Nat := 200

/-- What is shown as the error of a formula without a message. -/
def RepairRequest.unknownError : Text := "Unknown error".toList

/-- The request for the repair of a formula in a content. -/
def RepairRequest.about (content : Text) (formula : Formula) (contextSize : Int) : RepairRequest :=
  { latex := formula.raw
    errorMessage := match formula.errorMessage with
      | some message => if message.isEmpty then unknownError else message
      | none => unknownError
    context := Text.excerpt content formula.startOffset formula.endOffset contextSize
    delimiterName := formula.delimiter.name }

namespace Desk

variable {Outside problem : Type}

/-- Is a formula with the same id, span and text in the registry? -/
def knows (desk : Desk Outside) (formula : Formula) : Bool :=
  match desk.registry.formula? formula.id with
  | none => false
  | some known =>
      known.startOffset == formula.startOffset && known.endOffset == formula.endOffset &&
        known.rawWithDelimiters == formula.rawWithDelimiters

/-- Is the document version of a formula still on the desk? -/
def isFresh (desk : Desk Outside) (formula : Formula) (epoch : Int) : Bool :=
  epoch == desk.document.epoch && desk.knows formula

/-- Is a repair of the formula running? -/
def isInFlight (desk : Desk Outside) (id : Text) : Bool := desk.inFlight.contains id

/-- Mark a formula as being repaired. -/
def mark (desk : Desk Outside) (id : Text) : Desk Outside :=
  { desk with inFlight := id :: desk.inFlight }

/-- Remove the mark of a formula. -/
def unmark (desk : Desk Outside) (id : Text) : Desk Outside :=
  { desk with inFlight := desk.inFlight.filter (· != id) }

end Desk

namespace Repairer

variable {Outside problem : Type}

/-- Where a replacement of the provider came from. -/
def provenance (repairer : Repairer Outside problem) (reply : RepairReply) : Text :=
  repairer.provider.name ++ ':' :: reply.model

/-- Ask the provider about a formula that has been marked, and propose its reply while the formula
is fresh. -/
def consult (repairer : Repairer Outside problem) (formula : Formula) (epoch : Int) :
    StateM (Desk Outside) (Except (RepairProblem problem) (Option Fix)) := do
  let content := (← get).document.loaded
  match ← repairer.provider.repair (.about content formula repairer.contextSize) with
  | .error problem => return .error (.provider problem)
  | .ok reply =>
      if (← get).isFresh formula epoch then
        match ← repairer.renderer.propose formula.id reply.latex (repairer.provenance reply) with
        | .error unknown => return .error (.unknown unknown)
        | .ok fix => return .ok (some fix)
      else return .ok none

/-- Repair a formula of the document version with the given epoch, or of the present one. There is no
fix when that version is no longer on the desk, before or after the provider was asked. -/
def repair (repairer : Repairer Outside problem) (formula : Formula) (epoch : Option Int) :
    StateM (Desk Outside) (Except (RepairProblem problem) (Option Fix)) := do
  let desk ← get
  let epoch := epoch.getD desk.document.epoch
  if !desk.isFresh formula epoch then return .ok none
  else if desk.isInFlight formula.id then return .error (.running formula.id)
  else
    modify (·.mark formula.id)
    let result ← repairer.consult formula epoch
    modify (·.unmark formula.id)
    return result

/-- Repair formulas of one epoch in order. From the time on that another epoch has begun, they are
stale without being shown to the provider. -/
def repairFrom (repairer : Repairer Outside problem) (epoch : Nat) :
    List Formula → StateM (Desk Outside) (List (RepairOutcome problem))
  | [] => return []
  | formula :: formulas => do
      let result ←
        if (← get).document.epoch = epoch then
          RepairResult.ofRepair <$> repairer.repair formula (some (epoch : Int))
        else pure .stale
      return ⟨formula.id, result⟩ :: (← repairer.repairFrom epoch formulas)

/-- Repair formulas in order. -/
def repairAll (repairer : Repairer Outside problem) (formulas : List Formula) :
    StateM (Desk Outside) (List (RepairOutcome problem)) := do
  repairer.repairFrom (← get).document.epoch formulas

end Repairer

end FormulaRepair
