import FormulaRepair.Validation

/-! # The fixes proposed for the formulas of one document version

A registry holds at most one fix for each formula. A proposal is pending until it is accepted or
rejected; the first decision stands, and only a new proposal for the same formula opens it again. The
fixes stay in the order in which their formulas first got one.
-/

namespace FormulaRepair

/-- The formulas of one document version and their fixes. The edition tells registries apart that
were opened one after the other. -/
structure Registry where
  edition : Nat := 0
  formulas : List Formula := []
  fixes : List Fix := []
deriving DecidableEq, Repr, Inhabited

/-- A proposal for an id that no formula has. -/
structure UnknownFormula where
  id : Text
deriving DecidableEq, Repr, Inhabited

/-- The provenance of a fix that was typed by hand. -/
def Fix.manual : Text := "manual".toList

/-- A pending fix of a formula, given the verdict on the replacement. -/
def Fix.propose (formula : Formula) (id replacement : Text) (verdict : Verdict)
    (provenance : Text) : Fix :=
  { formulaId := id
    replacedRaw := formula.raw
    fixedRaw := replacement
    fixedWithDelimiters := formula.delimiter.wrap replacement
    fixedIsValid := verdict.success
    fixedErrorMessage := verdict.errorMessage
    status := .pending
    provenance := provenance }

namespace Registry

/-- The formula with an id; of several with one id, the last. -/
def formula? (registry : Registry) (id : Text) : Option Formula :=
  registry.formulas.reverse.find? (·.id == id)

/-- The fix of a formula. -/
def fix? (registry : Registry) (id : Text) : Option Fix :=
  registry.fixes.find? (·.formulaId == id)

/-- Does the formula have a fix? -/
def contains (registry : Registry) (id : Text) : Bool := (registry.fix? id).isSome

/-- The number of fixes. -/
def size (registry : Registry) : Nat := registry.fixes.length

/-- The fixes with a status. -/
def withStatus (registry : Registry) (status : FixStatus) : List Fix :=
  registry.fixes.filter (·.status == status)

/-- Keep a fix, in the place of the one that its formula has already. -/
def store (registry : Registry) (fix : Fix) : Registry :=
  if registry.contains fix.formulaId then
    { registry with
      fixes := registry.fixes.map fun kept => if kept.formulaId = fix.formulaId then fix else kept }
  else { registry with fixes := registry.fixes ++ [fix] }

/-- Give a status to the pending fixes that are chosen. -/
def decide (registry : Registry) (status : FixStatus) (chosen : Fix → Bool) : Registry :=
  { registry with
    fixes := registry.fixes.map fun fix =>
      if fix.status = .pending ∧ chosen fix then { fix with status := status } else fix }

/-- The number of pending fixes that are chosen. -/
def countPending (registry : Registry) (chosen : Fix → Bool) : Nat :=
  registry.fixes.countP fun fix => fix.status == .pending && chosen fix

/-- Accept the pending fix of a formula. -/
def accept (registry : Registry) (id : Text) : Registry :=
  registry.decide .accepted (·.formulaId == id)

/-- Reject the pending fix of a formula. -/
def reject (registry : Registry) (id : Text) : Registry :=
  registry.decide .rejected (·.formulaId == id)

/-- Does a bulk acceptance take this fix? -/
def takes (onlyValid : Bool) (fix : Fix) : Bool := !onlyValid || fix.fixedIsValid

/-- Accept all pending fixes, or those that typeset, and count them. -/
def acceptAll (registry : Registry) (onlyValid : Bool) : Nat × Registry :=
  (registry.countPending (takes onlyValid), registry.decide .accepted (takes onlyValid))

/-- Reject all pending fixes and count them. -/
def rejectAll (registry : Registry) : Nat × Registry :=
  (registry.countPending fun _ => true, registry.decide .rejected fun _ => true)

end Registry

/-- Propose a replacement for a formula. The fix is kept in the registry in which the formula was
found: when another one has been opened while the replacement was validated, it is kept nowhere. -/
def Renderer.propose {state : Type} [Holds Cache state] [Holds Registry state]
    (renderer : Renderer state) (id replacement provenance : Text) :
    StateM state (Except UnknownFormula Fix) := do
  let opened ← Holds.read Registry
  match opened.formula? id with
  | none => return .error ⟨id⟩
  | some formula =>
      let verdict ← renderer.validate ⟨replacement, formula.delimiter.isDisplay⟩
      let fix := Fix.propose formula id replacement verdict provenance
      Holds.update fun registry : Registry =>
        if registry.edition = opened.edition then registry.store fix else registry
      return .ok fix

end FormulaRepair
