import FormulaRepair.Proofs.Actions
import Mathlib.Data.List.Nodup

/-! # What the fixes of a registry have in common

A fix enters a registry through a proposal for one of its formulas, and decisions change its status
alone. What a proposal establishes between a formula and its fix, apart from the status, therefore
holds for every fix in the registry.
-/

namespace FormulaRepair

/-- The fix was made for the formula: it has its id and its content, and its replacement stands
between the delimiters of the formula. -/
structure Fix.Suits (formula : Formula) (fix : Fix) : Prop where
  formulaId : fix.formulaId = formula.id
  replacedRaw : fix.replacedRaw = formula.raw
  fixedWithDelimiters : fix.fixedWithDelimiters = formula.delimiter.wrap fix.fixedRaw

/-- The fix was made for the formula, and its verdict is that on the outcome of rendering it. -/
structure Fix.Verified (outcome : Sample → Except Refusal Text) (formula : Formula) (fix : Fix) :
    Prop extends fix.Suits formula where
  isValid : fix.fixedIsValid =
    (Verdict.ofRendering (outcome ⟨fix.fixedRaw, formula.delimiter.isDisplay⟩)).success
  errorMessage : fix.fixedErrorMessage =
    (Verdict.ofRendering (outcome ⟨fix.fixedRaw, formula.delimiter.isDisplay⟩)).errorMessage

theorem Fix.suits_propose {formula : Formula} {id : Text} (same : formula.id = id)
    (replacement provenance : Text) (verdict : Verdict) :
    (Fix.propose formula id replacement verdict provenance).Suits formula :=
  ⟨same.symm, rfl, rfl⟩

namespace Registry

theorem formula?_eq_some {registry : Registry} {id : Text} {formula : Formula}
    (known : registry.formula? id = some formula) :
    formula ∈ registry.formulas ∧ formula.id = id := by
  refine ⟨List.mem_reverse.mp (List.mem_of_find?_eq_some known), ?_⟩
  simpa using List.find?_some known

/-- Of formulas with ids of their own, each is the one under its id. -/
theorem formula?_of_mem {registry : Registry}
    (distinct : (registry.formulas.map Formula.id).Nodup) {formula : Formula}
    (member : formula ∈ registry.formulas) : registry.formula? formula.id = some formula := by
  cases known : registry.formula? formula.id with
  | none =>
    have absent := List.find?_eq_none.mp known formula (List.mem_reverse.mpr member)
    simp at absent
  | some other =>
    obtain ⟨listed, named⟩ := formula?_eq_some known
    rw [List.inj_on_of_nodup_map distinct listed member named]

theorem fix?_eq_some {registry : Registry} {id : Text} {fix : Fix}
    (kept : registry.fix? id = some fix) : fix ∈ registry.fixes ∧ fix.formulaId = id := by
  refine ⟨List.mem_of_find?_eq_some kept, ?_⟩
  simpa using List.find?_some kept

/-- A decision on the fixes of a registry. -/
inductive Decision
  | accept (id : Text)
  | reject (id : Text)
  | acceptAll (onlyValid : Bool)
  | rejectAll
deriving DecidableEq, Repr

/-- The registry after a decision. -/
def Decision.apply : Decision → Registry → Registry
  | accept id, registry => registry.accept id
  | reject id, registry => registry.reject id
  | acceptAll onlyValid, registry => (registry.acceptAll onlyValid).2
  | rejectAll, registry => registry.rejectAll.2

/-- Every decision gives one status to some of the pending fixes. -/
theorem Decision.apply_eq_decide (decision : Decision) :
    ∃ status chosen, ∀ registry : Registry,
      decision.apply registry = registry.decide status chosen := by
  cases decision with
  | accept id => exact ⟨.accepted, (·.formulaId == id), fun _ => rfl⟩
  | reject id => exact ⟨.rejected, (·.formulaId == id), fun _ => rfl⟩
  | acceptAll onlyValid => exact ⟨.accepted, takes onlyValid, fun _ => rfl⟩
  | rejectAll => exact ⟨.rejected, fun _ => true, fun _ => rfl⟩

@[simp] theorem Decision.apply_edition (decision : Decision) (registry : Registry) :
    (decision.apply registry).edition = registry.edition := by
  obtain ⟨status, chosen, same⟩ := decision.apply_eq_decide
  rw [same]
  rfl

@[simp] theorem Decision.apply_formulas (decision : Decision) (registry : Registry) :
    (decision.apply registry).formulas = registry.formulas := by
  obtain ⟨status, chosen, same⟩ := decision.apply_eq_decide
  rw [same]
  rfl

@[simp] theorem store_edition (registry : Registry) (fix : Fix) :
    (registry.store fix).edition = registry.edition := by
  unfold store
  split <;> rfl

@[simp] theorem store_formulas (registry : Registry) (fix : Fix) :
    (registry.store fix).formulas = registry.formulas := by
  unfold store
  split <;> rfl

theorem mem_store {registry : Registry} {added fix : Fix}
    (member : fix ∈ (registry.store added).fixes) : fix = added ∨ fix ∈ registry.fixes := by
  unfold store at member
  split at member
  · obtain ⟨kept, here, rfl⟩ := List.mem_map.mp member
    split
    · exact .inl rfl
    · exact .inr here
  · rcases List.mem_append.mp member with old | new
    · exact .inr old
    · exact .inl (List.mem_singleton.mp new)

/-- The first fix for a formula goes behind those of the other ones. -/
theorem store_of_new {registry : Registry} {fix : Fix}
    (new : ∀ kept ∈ registry.fixes, kept.formulaId ≠ fix.formulaId) :
    registry.store fix = { registry with fixes := registry.fixes ++ [fix] } := by
  have absent : registry.contains fix.formulaId = false := by
    rw [contains, fix?, List.find?_eq_none.mpr]
    · rfl
    · simpa using new
  rw [store, absent]
  rfl

theorem mem_decide {registry : Registry} {status : FixStatus} {chosen : Fix → Bool} {fix : Fix}
    (member : fix ∈ (registry.decide status chosen).fixes) :
    ∃ kept ∈ registry.fixes, ∃ reached : FixStatus, fix = { kept with status := reached } := by
  obtain ⟨kept, here, rfl⟩ := List.mem_map.mp member
  refine ⟨kept, here, ?_⟩
  split
  · exact ⟨status, rfl⟩
  · exact ⟨kept.status, rfl⟩

/-- A decision leaves each fix under its id and gives the status to those that it chooses. -/
theorem fix?_decide (registry : Registry) (status : FixStatus) (chosen : Fix → Bool) (id : Text) :
    (registry.decide status chosen).fix? id =
      (registry.fix? id).map fun fix =>
        if fix.status = .pending ∧ chosen fix then { fix with status := status } else fix := by
  rw [fix?, decide, List.find?_map, fix?]
  congr 2
  funext fix
  dsimp only [Function.comp_apply]
  split <;> rfl

/-- Every fix is related to one of the formulas. -/
def Relates (relation : Formula → Fix → Prop) (registry : Registry) : Prop :=
  ∀ fix ∈ registry.fixes, ∃ formula ∈ registry.formulas, relation formula fix

variable {relation : Formula → Fix → Prop} {registry : Registry}

theorem Relates.store (relates : registry.Relates relation) {formula : Formula} {fix : Fix}
    (known : formula ∈ registry.formulas) (related : relation formula fix) :
    (registry.store fix).Relates relation := by
  intro other member
  rw [store_formulas]
  rcases mem_store member with rfl | old
  · exact ⟨formula, known, related⟩
  · exact relates other old

/-- Decisions keep every relation that does not look at the status. -/
theorem Relates.apply (relates : registry.Relates relation)
    (unseen : ∀ formula fix (status : FixStatus), relation formula fix →
      relation formula { fix with status := status }) (decision : Decision) :
    (decision.apply registry).Relates relation := by
  obtain ⟨status, chosen, same⟩ := decision.apply_eq_decide
  intro fix member
  rw [decision.apply_formulas]
  rw [same] at member
  obtain ⟨kept, here, reached, rfl⟩ := mem_decide member
  obtain ⟨formula, known, related⟩ := relates kept here
  exact ⟨formula, known, unseen _ _ _ related⟩

end Registry

section Acts

variable {state : Type} [Holds Cache state] [Holds Registry state] {renderer : Renderer state}
  {id : Text} {whole : state}

theorem Renderer.propose_of_unknown (renderer : Renderer state) (replacement provenance : Text)
    (unknown : (Holds.view whole : Registry).formula? id = none) :
    renderer.propose id replacement provenance whole = (.error ⟨id⟩, whole) := by
  simp only [propose, run_bind, run_read, unknown]
  rfl

/-- A proposal is validated, and stored unless another registry has been opened in the meantime. -/
theorem Renderer.propose_of_known (renderer : Renderer state) (replacement provenance : Text)
    {formula : Formula} (known : (Holds.view whole : Registry).formula? id = some formula) :
    renderer.propose id replacement provenance whole =
      let answer := renderer.validate ⟨replacement, formula.delimiter.isDisplay⟩ whole
      let fix := Fix.propose formula id replacement answer.1 provenance
      let registry : Registry := Holds.view answer.2
      (.ok fix, Holds.replace
        (if registry.edition = (Holds.view whole : Registry).edition then registry.store fix
          else registry) answer.2) := by
  simp only [propose, run_bind, run_read, known]
  rfl

/-- A proposal does what its renderer does, and changes the cache and the registry. -/
theorem within_propose {allowed : state → state → Prop} [IsPreorder state allowed]
    (cached : Overlooks Cache allowed) (registered : Overlooks Registry allowed)
    (renders : ∀ sample, Within allowed (renderer sample)) (id replacement provenance : Text) :
    Within allowed (renderer.propose id replacement provenance) := by
  refine within_bind (within_read Registry) fun opened => ?_
  split
  · exact within_pure _
  · refine within_bind (within_validate cached renders _) fun verdict => ?_
    exact within_bind (within_update registered _) fun _ => within_pure _

/-- What is done with a registry: a proposal for a formula, or a decision on its fixes. -/
inductive Registry.Act
  | propose (id replacement provenance : Text)
  | decide (decision : Registry.Decision)

/-- Carry out one act after the other. -/
def Registry.performAll (renderer : Renderer state) : List Registry.Act → StateM state Unit
  | [] => pure ()
  | .propose id replacement provenance :: acts => do
      discard (renderer.propose id replacement provenance)
      Registry.performAll renderer acts
  | .decide decision :: acts => do
      Holds.update decision.apply
      Registry.performAll renderer acts

end Acts

end FormulaRepair
