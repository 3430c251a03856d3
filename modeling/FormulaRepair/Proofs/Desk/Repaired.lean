import FormulaRepair.Proofs.Desk.Operations
import FormulaRepair.Proofs.Registry
import FormulaRepair.Proofs.Scan.Rescan

/-! # Repairs that leave the rest of a document alone

The formulas of a text are validated, fixes are proposed for them and decided on, and the accepted ones
are written into the text. When the text that comes of it is scanned and validated again, each formula
is found again: as it was, or as its fix foretold.
-/

namespace FormulaRepair

variable {Outside : Type}

namespace Desk

/-- The registry on the desk has not changed. -/
def SameRegistry (before after : Desk Outside) : Prop := after.registry = before.registry

instance : IsPreorder (Desk Outside) SameRegistry where
  refl _ := rfl
  trans _ _ _ earlier later := later.trans earlier

/-- The cache holds no verdict but those on the outcomes, and neither does the registry, which is one
for the given formulas. -/
structure Verified (outcome : Sample → Except Refusal Text) (formulas : List Formula)
    (desk : Desk Outside) : Prop where
  truthful : desk.cache.Truthful outcome
  formulas : desk.registry.formulas = formulas
  fixes : desk.registry.Relates (Fix.Verified outcome)

section Acts

variable {renderer : Renderer (Desk Outside)} {outcome : Sample → Except Refusal Text}
  {formulas : List Formula}

/-- A proposal adds a fix with the verdict on its own outcome. -/
theorem Verified.propose (steady : renderer.Steady outcome)
    (leaves : ∀ sample, Within SameRegistry (renderer sample)) {desk : Desk Outside}
    (verified : Verified outcome formulas desk) (id replacement provenance : Text) :
    Verified outcome formulas (renderer.propose id replacement provenance desk).2 := by
  cases known : desk.registry.formula? id with
  | none =>
    rw [Renderer.propose_of_unknown renderer replacement provenance known]
    exact verified
  | some formula =>
    obtain ⟨listed, named⟩ := Registry.formula?_eq_some known
    obtain ⟨verdict, truthful⟩ := steady.validate verified.truthful
      ⟨replacement, formula.delimiter.isDisplay⟩
    have same := within_validate (fun _ _ => rfl) leaves
      ⟨replacement, formula.delimiter.isDisplay⟩ desk
    rw [Renderer.propose_of_known renderer replacement provenance known]
    generalize renderer.validate ⟨replacement, formula.delimiter.isDisplay⟩ desk = answer at *
    have current : (Holds.view answer.2 : Registry) = desk.registry := same
    have edition : (Holds.view answer.2 : Registry).edition = (Holds.view desk : Registry).edition :=
      congrArg Registry.edition same
    dsimp only
    rw [if_pos edition, current, verdict]
    refine ⟨truthful, ?_, ?_⟩
    · exact (Registry.store_formulas _ _).trans verified.formulas
    · exact verified.fixes.store listed ⟨Fix.suits_propose named .., rfl, rfl⟩

theorem Verified.performAll (steady : renderer.Steady outcome)
    (leaves : ∀ sample, Within SameRegistry (renderer sample)) {desk : Desk Outside}
    (verified : Verified outcome formulas desk) (acts : List Registry.Act) :
    Verified outcome formulas (Registry.performAll renderer acts desk).2 := by
  induction acts generalizing desk with
  | nil => exact verified
  | cons act acts ih =>
    cases act with
    | propose id replacement provenance =>
      exact ih (verified.propose steady leaves id replacement provenance)
    | decide decision =>
      refine ih ⟨verified.truthful, ?_, ?_⟩
      · exact (decision.apply_formulas _).trans verified.formulas
      · exact verified.fixes.apply (fun _ _ _ fix => ⟨⟨fix.1.1, fix.1.2, fix.1.3⟩, fix.2, fix.3⟩)
          decision

/-- A new registry for validated formulas. -/
theorem Verified.openRegistry {desk : Desk Outside} (truthful : desk.cache.Truthful outcome)
    (formulas : List Formula) : Verified outcome formulas (desk.openRegistry formulas) := by
  refine ⟨truthful, rfl, ?_⟩
  intro fix member
  cases member

end Acts

end Desk

/-- A formula and what it has become, verdict included: without an accepted fix everything but its
place is as before, and with one the content, the validity and the error message are those of the
fix. -/
structure Repaired (fixOf : Text → Option Fix) (old new : Formula) : Prop
    extends Renewed fixOf old new where
  verdict : match acceptedFix? fixOf old.id with
    | none => new.isValid = old.isValid ∧ new.errorMessage = old.errorMessage
    | some fix => new.isValid = fix.fixedIsValid ∧ new.errorMessage = fix.fixedErrorMessage

/-- The verdict on a formula is that on the outcome of rendering it. -/
def Formula.Judged (outcome : Sample → Except Refusal Text) (formula : Formula) : Prop :=
  formula.isValid = (Verdict.ofRendering (outcome formula.sample)).success ∧
    formula.errorMessage = (Verdict.ofRendering (outcome formula.sample)).errorMessage

/-- Where verdicts go by the outcome of rendering, formulas with the same content get the same one. -/
theorem Renewed.repaired {outcome : Sample → Except Refusal Text} {fixOf : Text → Option Fix}
    {old new : Formula} (renewed : Renewed fixOf old new) (oldJudged : old.Judged outcome)
    (newJudged : new.Judged outcome)
    (verified : ∀ fix ∈ acceptedFix? fixOf old.id, fix.Verified outcome old) :
    Repaired fixOf old new := by
  refine ⟨renewed, ?_⟩
  have content := renewed.content
  have sample : new.sample = ⟨new.raw, old.delimiter.isDisplay⟩ := by
    rw [Formula.sample, renewed.delimiter]
  cases accepted : acceptedFix? fixOf old.id with
  | none =>
    simp only [accepted] at content ⊢
    have same : new.sample = old.sample := by rw [sample, content.1]; rfl
    exact ⟨by rw [newJudged.1, oldJudged.1, same], by rw [newJudged.2, oldJudged.2, same]⟩
  | some fix =>
    simp only [accepted] at content ⊢
    obtain ⟨-, isValid, errorMessage⟩ := verified fix accepted
    rw [content.1] at sample
    exact ⟨by rw [newJudged.1, isValid, sample], by rw [newJudged.2, errorMessage, sample]⟩

namespace Desk

/-- With a renderer whose outcome depends on the sample alone, fixes are proposed for the validated
formulas of a text and decided on in any way. When the contents of the accepted ones bring no mark of
their own, the text with these fixes has the same formulas again, each with its old verdict or the one
that was foretold by its fix. -/
theorem rescan_repaired {renderer : Renderer (Desk Outside)}
    {outcome : Sample → Except Refusal Text} (steady : renderer.Steady outcome)
    (leaves : ∀ sample, Within SameRegistry (renderer sample)) (text : Text) {desk : Desk Outside}
    (truthful : desk.cache.Truthful outcome) (acts : List Registry.Act) :
    let scanned := renderer.validateAll (Scan.formulas text) desk
    let worked := (Registry.performAll renderer acts (scanned.2.openRegistry scanned.1)).2
    let repaired := compose text scanned.1 worked.registry.fix?
    (∀ formula ∈ scanned.1, ∀ fix ∈ acceptedFix? worked.registry.fix? formula.id,
      formula.delimiter.Accepts fix.fixedRaw) →
    worked.cache.Truthful outcome ∧
    ∀ later : Desk Outside, later.cache.Truthful outcome →
      List.Forall₂ (Repaired worked.registry.fix?) scanned.1
        (renderer.validateAll (Scan.formulas repaired) later).1 := by
  intro scanned worked repaired accepts
  obtain ⟨validated, checked⟩ := steady.validateAll truthful (Scan.formulas text)
  have verified : Verified outcome scanned.1 worked :=
    (Verified.openRegistry checked scanned.1).performAll steady leaves acts
  have found : FoundIn text scanned.1 :=
    (validateAll_asFound ..).trans (Scan.map_asFound_formulas text)
  have fixes : ∀ formula ∈ scanned.1, ∀ fix ∈ acceptedFix? worked.registry.fix? formula.id,
      fix.Verified outcome formula := by
    intro formula member fix accepted
    exact found.related verified.formulas verified.fixes (fun _ _ made => made.formulaId) member
      (acceptedFix?_eq_some_iff.mp accepted).1
  refine ⟨verified.truthful, fun later laterTruthful => ?_⟩
  have renewed : List.Forall₂ (Renewed worked.registry.fix?) scanned.1 (Scan.formulas repaired) :=
    renewed_formulas_compose found fun formula member fix accepted =>
      ⟨(fixes formula member fix accepted).fixedWithDelimiters,
        accepts formula member fix accepted⟩
  have judged : ∀ formula ∈ scanned.1, formula.Judged outcome := by
    intro formula member
    obtain ⟨unjudged, -, rfl⟩ := List.mem_map.mp (validated ▸ member)
    exact ⟨rfl, rfl⟩
  rw [(steady.validateAll laterTruthful _).1, List.forall₂_map_right_iff]
  have members := (List.forall₂_and_left _ _).mpr
    ⟨fun formula member => And.intro (judged formula member) (fixes formula member), renewed⟩
  refine members.imp ?_
  rintro old new ⟨⟨oldJudged, verified⟩, id, delimiter, content⟩
  have again : Renewed worked.registry.fix? old
      (new.withVerdict (Verdict.ofRendering (outcome new.sample))) := ⟨id, delimiter, content⟩
  exact again.repaired oldJudged ⟨rfl, rfl⟩ verified

/-- A renderer that refuses one formula. -/
def picky : Renderer (Desk Unit) := fun sample =>
  pure (if sample.latex = "x^".toList then .error (.rejected "incomplete".toList) else .ok [])

theorem rescan_repaired_picky :
    let desk : Desk Unit := { cache := default, pool := default, pooled := false, outside := () }
    let scanned := picky.validateAll (Scan.formulas "$x^$ `$` $$y$$".toList) desk
    let acts := [.propose (Scan.formulaId 0) "x^2".toList Fix.manual, .decide (.acceptAll true)]
    let worked := (Registry.performAll picky acts (scanned.2.openRegistry scanned.1)).2
    let repaired := compose "$x^$ `$` $$y$$".toList scanned.1 worked.registry.fix?
    repaired = "$x^2$ `$` $$y$$".toList ∧
      List.Forall₂ (Repaired worked.registry.fix?) scanned.1
        (picky.validateAll (Scan.formulas repaired) worked).1 := by
  intro desk scanned acts worked repaired
  have steady : picky.Steady fun sample => (picky sample desk).1 :=
    ⟨fun _ _ => rfl, fun _ _ truthful => truthful⟩
  have empty : desk.cache.Truthful fun sample => (picky sample desk).1 := by
    intro entry member
    cases member
  obtain ⟨truthful, again⟩ := rescan_repaired steady (fun _ _ => rfl) "$x^$ `$` $$y$$".toList empty
    acts (by decide +kernel)
  exact ⟨by decide +kernel, again worked truthful⟩

end Desk

end FormulaRepair
