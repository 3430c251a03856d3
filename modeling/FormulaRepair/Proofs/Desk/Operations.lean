import FormulaRepair.Proofs.Registry
import FormulaRepair.Proofs.Validation
import FormulaRepair.Repair

/-! # Operations on a desk, with whatever happens inside them

An analysis and a repair are taken apart here into what typesetters and providers do, and what the
operation itself does between their calls.
-/

namespace FormulaRepair

variable {Outside problem : Type}

namespace Desk

variable {allowed : Desk Outside → Desk Outside → Prop} [IsPreorder (Desk Outside) allowed]
  {renderer : Renderer (Desk Outside)}

theorem within_check (cached : Overlooks Cache allowed) (pooled : Overlooks Pool allowed)
    (renders : ∀ sample, Within allowed (renderer sample)) (formulas : List Formula) :
    Within allowed (check renderer formulas) := by
  refine within_bind within_get fun desk => ?_
  split
  · exact within_validateFormulas cached pooled renders formulas
  · exact within_bind (within_validateAll cached renders formulas) fun _ => within_pure _

/-- Checked formulas are the given ones with verdicts filled in. -/
theorem check_asFound {formulas checked : List Formula} {desk : Desk Outside}
    (answered : (check renderer formulas desk).1 = .ok (some checked)) :
    checked.map Formula.asFound = formulas.map Formula.asFound := by
  simp only [check, run_bind, run_get] at answered
  cases pooled : desk.pooled with
  | true =>
    simp only [pooled, ↓reduceIte] at answered
    exact validateFormulas_asFound answered
  | false =>
    simp only [pooled, Bool.false_eq_true, ↓reduceIte] at answered
    cases answered
    exact validateAll_asFound renderer formulas desk

/-- An analysis keeps what the check answered while the epoch has not changed. -/
theorem analyze_eq (renderer : Renderer (Desk Outside)) (desk : Desk Outside) :
    analyze renderer desk =
      let checked := check renderer (Scan.formulas desk.document.loaded) desk
      match checked.1 with
      | .error closed => (.error closed, checked.2)
      | .ok none => (.ok [], checked.2)
      | .ok (some formulas) =>
          if checked.2.document.epoch = desk.document.epoch then
            (.ok formulas, checked.2.setFormulas formulas)
          else (.ok [], checked.2) := by
  simp only [analyze, run_bind, run_get]
  cases (check renderer (Scan.formulas desk.document.loaded) desk).1 with
  | error closed => rfl
  | ok answer =>
    cases answer with
    | none => rfl
    | some formulas =>
      simp only [run_bind, run_get]
      split <;> rfl

/-- An analysis does what its renderer does, and may then replace the formulas. -/
theorem within_analyze (cached : Overlooks Cache allowed) (pooled : Overlooks Pool allowed)
    (installs : ∀ desk formulas, allowed desk (desk.setFormulas formulas))
    (renders : ∀ sample, Within allowed (renderer sample)) : Within allowed (analyze renderer) := by
  intro desk
  have checked := within_check cached pooled renders (Scan.formulas desk.document.loaded) desk
  rw [analyze_eq]
  dsimp only
  split
  · exact checked
  · exact checked
  · split
    · exact IsTrans.trans _ _ _ checked (installs _ _)
    · exact checked

@[simp] theorem document_mark (desk : Desk Outside) (id : Text) :
    (desk.mark id).document = desk.document := rfl

/-- A formula is fresh while its version is on the desk and the registry has a formula with the same
id, span and text. -/
theorem exists_of_isFresh {desk : Desk Outside} {formula : Formula} {version : Int}
    (fresh : desk.isFresh formula version = true) :
    ∃ known, desk.registry.formula? formula.id = some known ∧
      version = desk.document.epoch ∧ known.startOffset = formula.startOffset ∧
      known.endOffset = formula.endOffset ∧
      known.rawWithDelimiters = formula.rawWithDelimiters := by
  simp only [isFresh, knows, Bool.and_eq_true, beq_iff_eq] at fresh
  cases found : desk.registry.formula? formula.id with
  | none => simp [found] at fresh
  | some known =>
    simp only [found, Bool.and_eq_true, beq_iff_eq] at fresh
    exact ⟨known, rfl, fresh.1, fresh.2.1.1, fresh.2.1.2, fresh.2.2⟩

end Desk

namespace Repairer

/-- A consultation proposes the reply of the provider while the formula is fresh. -/
theorem consult_eq (repairer : Repairer Outside problem) (formula : Formula) (epoch : Int)
    (desk : Desk Outside) :
    repairer.consult formula epoch desk =
      let answer := repairer.provider.repair
        (.about desk.document.loaded formula repairer.contextSize) desk
      match answer.1 with
      | .error problem => (.error (.provider problem), answer.2)
      | .ok reply =>
          if answer.2.isFresh formula epoch then
            let proposed := repairer.renderer.propose formula.id reply.latex
              (repairer.provenance reply) answer.2
            match proposed.1 with
            | .error unknown => (.error (.unknown unknown), proposed.2)
            | .ok fix => (.ok (some fix), proposed.2)
          else (.ok none, answer.2) := by
  simp only [consult, run_bind, run_get]
  generalize repairer.provider.repair (.about desk.document.loaded formula repairer.contextSize)
    desk = answer
  cases answer.1 with
  | error problem => rfl
  | ok reply =>
    simp only [run_bind, run_get]
    split
    · simp only [run_bind]
      generalize repairer.renderer.propose formula.id reply.latex (repairer.provenance reply)
        answer.2 = proposed
      cases proposed.1 with
      | error unknown => rfl
      | ok fix => rfl
    · rfl

/-- A repair is refused for a formula that is not fresh or is being repaired already. The formula is
marked as long as the provider is consulted. -/
theorem repair_eq (repairer : Repairer Outside problem) (formula : Formula) (epoch : Option Int)
    (desk : Desk Outside) :
    repairer.repair formula epoch desk =
      let epoch := epoch.getD desk.document.epoch
      if !desk.isFresh formula epoch then (.ok none, desk)
      else if desk.isInFlight formula.id then (.error (.running formula.id), desk)
      else
        let consulted := repairer.consult formula epoch (desk.mark formula.id)
        (consulted.1, consulted.2.unmark formula.id) := by
  simp only [repair, run_bind, run_get]
  split
  · rfl
  · split <;> rfl

/-- The answer of the provider about a formula, which is marked meanwhile. -/
def answer (repairer : Repairer Outside problem) (formula : Formula) (desk : Desk Outside) :
    Except problem RepairReply × Desk Outside :=
  repairer.provider.repair (.about desk.document.loaded formula repairer.contextSize)
    (desk.mark formula.id)

/-- How the repair of a formula of the given version ends, and the desk that it leaves behind. -/
inductive Ends (repairer : Repairer Outside problem) (formula : Formula) (version : Int)
    (desk : Desk Outside) :
    Except (RepairProblem problem) (Option Fix) → Desk Outside → Prop
  | outdated : desk.isFresh formula version = false →
      Ends repairer formula version desk (.ok none) desk
  | running : desk.isFresh formula version = true → desk.isInFlight formula.id = true →
      Ends repairer formula version desk (.error (.running formula.id)) desk
  | failed {trouble : problem} : desk.isFresh formula version = true →
      desk.isInFlight formula.id = false → (repairer.answer formula desk).1 = .error trouble →
      Ends repairer formula version desk (.error (.provider trouble))
        ((repairer.answer formula desk).2.unmark formula.id)
  | overtaken {reply : RepairReply} : desk.isFresh formula version = true →
      desk.isInFlight formula.id = false → (repairer.answer formula desk).1 = .ok reply →
      (repairer.answer formula desk).2.isFresh formula version = false →
      Ends repairer formula version desk (.ok none)
        ((repairer.answer formula desk).2.unmark formula.id)
  | proposed {reply : RepairReply} {fix : Fix} {proposed : Desk Outside} :
      desk.isFresh formula version = true → desk.isInFlight formula.id = false →
      (repairer.answer formula desk).1 = .ok reply →
      (repairer.answer formula desk).2.isFresh formula version = true →
      repairer.renderer.propose formula.id reply.latex (repairer.provenance reply)
        (repairer.answer formula desk).2 = (.ok fix, proposed) →
      Ends repairer formula version desk (.ok (some fix)) (proposed.unmark formula.id)

/-- A repair ends in one of these ways. The proposal is never refused, since a fresh formula is
known to the registry. -/
theorem ends_repair (repairer : Repairer Outside problem) (formula : Formula) (epoch : Option Int)
    (desk : Desk Outside) :
    repairer.Ends formula (epoch.getD desk.document.epoch) desk
      (repairer.repair formula epoch desk).1 (repairer.repair formula epoch desk).2 := by
  rw [repair_eq]
  generalize epoch.getD desk.document.epoch = version
  dsimp only
  cases fresh : desk.isFresh formula version with
  | false => exact .outdated fresh
  | true =>
    cases running : desk.isInFlight formula.id with
    | true => exact .running fresh running
    | false =>
      simp only [Bool.not_true, Bool.false_eq_true, ↓reduceIte, consult_eq, Desk.document_mark,
        ← answer.eq_1]
      cases answered : (repairer.answer formula desk).1 with
      | error trouble => exact .failed fresh running answered
      | ok reply =>
        cases still : (repairer.answer formula desk).2.isFresh formula version with
        | false => exact .overtaken fresh running answered still
        | true =>
          obtain ⟨known, found, -⟩ := Desk.exists_of_isFresh still
          have proposes := Renderer.propose_of_known repairer.renderer reply.latex
            (repairer.provenance reply) found
          simp only [↓reduceIte, proposes]
          exact .proposed fresh running answered still proposes

section Ends

variable {repairer : Repairer Outside problem} {formula : Formula} {version : Int}
  {desk after : Desk Outside} {result : Except (RepairProblem problem) (Option Fix)}

theorem Ends.ne_unknown (ends : repairer.Ends formula version desk result after)
    (unknown : UnknownFormula) : result ≠ .error (.unknown unknown) := by
  cases ends <;> simp

/-- Without a fix, the desk is as it was or as the provider left it. -/
theorem Ends.desk_eq (ends : repairer.Ends formula version desk result after)
    (unfixed : ∀ fix, result ≠ .ok (some fix)) :
    after = desk ∨ after = (repairer.answer formula desk).2.unmark formula.id := by
  cases ends with
  | outdated => exact .inl rfl
  | running => exact .inl rfl
  | failed => exact .inr rfl
  | overtaken => exact .inr rfl
  | proposed => exact absurd rfl (unfixed _)

theorem Ends.exists_of_fixed {fix : Fix}
    (ends : repairer.Ends formula version desk (.ok (some fix)) after) :
    (repairer.answer formula desk).2.isFresh formula version = true ∧
      ∃ (reply : RepairReply) (proposed : Desk Outside),
        (repairer.answer formula desk).1 = .ok reply ∧
        repairer.renderer.propose formula.id reply.latex (repairer.provenance reply)
          (repairer.answer formula desk).2 = (.ok fix, proposed) ∧
        after = proposed.unmark formula.id := by
  cases ends with
  | proposed _ _ answered still proposes => exact ⟨still, _, _, answered, proposes, rfl⟩

end Ends

end Repairer

/-- The fix, when there is one. -/
def RepairResult.fix? : RepairResult problem → Option Fix
  | fixed fix => some fix
  | failed _ | stale => none

namespace Repairer

/-- A batch goes on behind each formula, which is stale once another epoch has begun. -/
theorem repairFrom_cons (repairer : Repairer Outside problem) (epoch : Nat) (formula : Formula)
    (formulas : List Formula) (desk : Desk Outside) :
    repairer.repairFrom epoch (formula :: formulas) desk =
      let repaired :=
        if desk.document.epoch = epoch then
          let ended := repairer.repair formula (some (epoch : Int)) desk
          (RepairResult.ofRepair ended.1, ended.2)
        else (.stale, desk)
      let later := repairer.repairFrom epoch formulas repaired.2
      (⟨formula.id, repaired.1⟩ :: later.1, later.2) := by
  simp only [repairFrom, run_bind, run_get]
  split <;> rfl

variable {allowed : Desk Outside → Desk Outside → Prop} [IsPreorder (Desk Outside) allowed]
  {repairer : Repairer Outside problem}

/-- A repair does what its provider and its proposal do, and changes the marks of running repairs.
-/
theorem within_repair
    (provides : ∀ request, Within allowed (repairer.provider.repair request))
    (proposes : ∀ id replacement provenance,
      Within allowed (repairer.renderer.propose id replacement provenance))
    (marks : ∀ desk inFlight, allowed desk { desk with inFlight := inFlight })
    (formula : Formula) (epoch : Option Int) :
    Within allowed (repairer.repair formula epoch) := by
  have consult (epoch : Int) : Within allowed (repairer.consult formula epoch) := by
    intro desk
    have answered := provides (.about desk.document.loaded formula repairer.contextSize) desk
    rw [consult_eq]
    dsimp only
    split
    · exact answered
    · next reply _ =>
      split
      · have proposed := IsTrans.trans _ _ _ answered
          (proposes formula.id reply.latex (repairer.provenance reply) _)
        split <;> exact proposed
      · exact answered
  intro desk
  rw [repair_eq]
  dsimp only
  split
  · exact Std.Refl.refl desk
  · split
    · exact Std.Refl.refl desk
    · exact IsTrans.trans _ _ _ (IsTrans.trans _ _ _ (marks desk _) (consult _ _)) (marks _ _)

/-- A batch does what its repairs do. -/
theorem within_repairAll
    (repairs : ∀ formula epoch, Within allowed (repairer.repair formula epoch))
    (formulas : List Formula) : Within allowed (repairer.repairAll formulas) := by
  refine within_bind within_get fun desk => ?_
  generalize desk.document.epoch = epoch
  induction formulas with
  | nil => exact within_pure _
  | cons formula formulas ih =>
    intro desk
    rw [repairFrom_cons]
    dsimp only
    split
    · exact IsTrans.trans _ _ _ (repairs _ _ _) (ih _)
    · exact ih desk

end Repairer

end FormulaRepair
