import FormulaRepair.Proofs.Compose
import FormulaRepair.Proofs.Desk.Operations
import FormulaRepair.Proofs.Pool.Agreement

/-! # Desks that nobody else works on

Typesetters and providers that keep to the world outside leave the desk to the operation that waits
for them. An analysis then judges every formula of the text, and a batch asks the provider about
each of its formulas and keeps a fix for every reply, whatever becomes of the other ones.
-/

namespace FormulaRepair

variable {Outside problem : Type} {outcome : Sample → Except Refusal Text}

namespace Desk

/-- Nothing but the world outside has changed. -/
def OnlyOutside (before after : Desk Outside) : Prop :=
  after = { before with outside := after.outside }

instance : IsPreorder (Desk Outside) OnlyOutside where
  refl _ := rfl
  trans first second third earlier later := by
    unfold OnlyOutside at *
    rw [later, earlier]

/-- The document, its registry and the marks are as they were before. -/
structure Unmoved (before after : Desk Outside) : Prop where
  document : after.document = before.document
  registry : after.registry = before.registry
  inFlight : after.inFlight = before.inFlight

instance : IsPreorder (Desk Outside) Unmoved where
  refl _ := ⟨rfl, rfl, rfl⟩
  trans _ _ _ earlier later :=
    ⟨later.document.trans earlier.document, later.registry.trans earlier.registry,
      later.inFlight.trans earlier.inFlight⟩

theorem OnlyOutside.unmoved {before after : Desk Outside} (same : OnlyOutside before after) :
    Unmoved before after := by
  rw [same]
  exact ⟨rfl, rfl, rfl⟩

theorem OnlyOutside.cache {before after : Desk Outside} (same : OnlyOutside before after) :
    after.cache = before.cache := by
  rw [same]

theorem OnlyOutside.pool {before after : Desk Outside} (same : OnlyOutside before after) :
    after.pool = before.pool := by
  rw [same]

end Desk

open Desk

/-- A proposal for a known formula stores a fix with the verdict on its own outcome, when the
renderer leaves the document, the registry and the marks alone. -/
theorem Renderer.Steady.propose_eq {renderer : Renderer (Desk Outside)}
    (steady : renderer.Steady outcome) (leaves : ∀ sample, Within Unmoved (renderer sample))
    {desk proposed : Desk Outside} {id replacement provenance : Text}
    {result : Except UnknownFormula Fix}
    (proposes : renderer.propose id replacement provenance desk = (result, proposed))
    (truthful : desk.cache.Truthful outcome) {formula : Formula}
    (known : desk.registry.formula? id = some formula) :
    let fix := Fix.propose formula id replacement
      (Verdict.ofRendering (outcome ⟨replacement, formula.delimiter.isDisplay⟩)) provenance
    result = .ok fix ∧ Unmoved { desk with registry := desk.registry.store fix } proposed ∧
      proposed.cache.Truthful outcome := by
  obtain ⟨verdict, done⟩ := steady.validate truthful ⟨replacement, formula.delimiter.isDisplay⟩
  have unmoved : Unmoved desk
      (renderer.validate ⟨replacement, formula.delimiter.isDisplay⟩ desk).2 :=
    within_validate (fun _ _ => ⟨rfl, rfl, rfl⟩) leaves _ desk
  rw [Renderer.propose_of_known renderer replacement provenance known] at proposes
  rw [← verdict]
  generalize renderer.validate ⟨replacement, formula.delimiter.isDisplay⟩ desk = answer at *
  cases proposes
  obtain ⟨document, registry, inFlight⟩ := unmoved
  have current : (Holds.view answer.2 : Registry) = desk.registry := registry
  have edition : (Holds.view answer.2 : Registry).edition = (Holds.view desk : Registry).edition :=
    congrArg Registry.edition registry
  dsimp only
  rw [if_pos edition, current]
  exact ⟨rfl, ⟨document, rfl, inFlight⟩, done⟩

/-- The outcome of rendering depends on the sample alone, and the renderer keeps to the world
outside. -/
structure Renderer.Plain (renderer : Renderer (Desk Outside))
    (outcome : Sample → Except Refusal Text) : Prop where
  outcome_eq : ∀ sample desk, (renderer sample desk).1 = outcome sample
  outside : ∀ sample, Within OnlyOutside (renderer sample)

namespace Renderer.Plain

variable {renderer : Renderer (Desk Outside)}

theorem steady (plain : renderer.Plain outcome) : renderer.Steady outcome where
  outcome_eq := plain.outcome_eq
  truthful sample desk truthful := by
    have same : (Holds.view (renderer sample desk).2 : Cache) = Holds.view desk :=
      (plain.outside sample desk).cache
    rw [same]
    exact truthful

theorem unmoved (plain : renderer.Plain outcome) (sample : Sample) :
    Within Unmoved (renderer sample) := fun desk => (plain.outside sample desk).unmoved

/-- A check judges the formulas by the outcomes, in the pool or not. -/
theorem check (plain : renderer.Plain outcome) {desk : Desk Outside}
    (truthful : desk.cache.Truthful outcome) (accepting : desk.pool.closed = false)
    {formulas : List Formula} (distinct : (formulas.map Formula.id).Nodup) :
    (Desk.check renderer formulas desk).1 =
        .ok (some (formulas.map (Formula.judgedBy outcome))) ∧
      (Desk.check renderer formulas desk).2.cache.Truthful outcome := by
  have pooled : Overlooks Pool (Kept Cache : Desk Outside → Desk Outside → Prop) := fun _ _ => rfl
  have cached : Overlooks Cache (Kept Pool : Desk Outside → Desk Outside → Prop) := fun _ _ => rfl
  simp only [Desk.check, run_bind, run_get]
  cases desk.pooled with
  | true =>
    exact Pool.validateFormulas_of_steady pooled cached plain.steady
      (fun sample desk => (plain.outside sample desk).pool) truthful accepting distinct
  | false =>
    obtain ⟨judged, done⟩ := plain.steady.validateAll truthful formulas
    exact ⟨congrArg (fun formulas => Except.ok (some formulas)) judged, done⟩

end Renderer.Plain

namespace Desk

/-- A mark that has been set where there was none is gone when it is removed. -/
theorem unmark_mark {desk : Desk Outside} {id : Text} (free : desk.isInFlight id = false) :
    (desk.mark id).unmark id = desk := by
  have absent : id ∉ desk.inFlight := by simpa [isInFlight] using free
  have kept : desk.inFlight.filter (· != id) = desk.inFlight :=
    List.filter_eq_self.mpr fun other member => bne_iff_ne.mpr fun same => absent (same ▸ member)
  simp [mark, unmark, kept]

/-- The registry is one for the given formulas, no repair of them is running, and the verdicts kept
are those on the outcomes. -/
structure AtWork (outcome : Sample → Except Refusal Text) (formulas : List Formula)
    (desk : Desk Outside) : Prop where
  formulas : desk.registry.formulas = formulas
  idle : desk.inFlight = []
  truthful : desk.cache.Truthful outcome

/-- An analysis judges all formulas of the text and opens an empty registry for them. -/
theorem analyze_of_plain {renderer : Renderer (Desk Outside)} (plain : renderer.Plain outcome)
    {desk : Desk Outside} (truthful : desk.cache.Truthful outcome)
    (accepting : desk.pool.closed = false) (idle : desk.inFlight = []) :
    let formulas := (Scan.formulas desk.document.loaded).map (Formula.judgedBy outcome)
    let analyzed := analyze renderer desk
    analyzed.1 = .ok formulas ∧
      analyzed.2.document = { desk.document with formulas := formulas } ∧
      analyzed.2.registry.fixes = [] ∧ analyzed.2.AtWork outcome formulas := by
  intro formulas analyzed
  obtain ⟨checked, done⟩ := plain.check truthful accepting
    (Scan.nodup_map_id_formulas desk.document.loaded)
  have unmoved : Unmoved desk (check renderer (Scan.formulas desk.document.loaded) desk).2 :=
    within_check (fun _ _ => ⟨rfl, rfl, rfl⟩) (fun _ _ => ⟨rfl, rfl, rfl⟩) plain.unmoved _ desk
  have kept : analyzed =
      (.ok formulas,
        (check renderer (Scan.formulas desk.document.loaded) desk).2.setFormulas formulas) := by
    simp only [analyzed, analyze_eq, checked, unmoved.document, ↓reduceIte]
    rfl
  rw [kept]
  refine ⟨rfl, ?_, rfl, rfl, unmoved.inFlight.trans idle, done⟩
  exact congrArg (fun document => { document with formulas := formulas }) unmoved.document

end Desk

namespace Repairer

/-- The fix that comes of the answer about a formula, given the outcome of rendering the reply. -/
def fixFor? (repairer : Repairer Outside problem) (outcome : Sample → Except Refusal Text)
    (formula : Formula) : Except problem RepairReply → Option Fix
  | .error _ => none
  | .ok reply =>
      some (Fix.propose formula formula.id reply.latex
        (Verdict.ofRendering (outcome ⟨reply.latex, formula.delimiter.isDisplay⟩))
        (repairer.provenance reply))

theorem fixFor?_formulaId {repairer : Repairer Outside problem} {formula : Formula}
    {answer : Except problem RepairReply} {fix : Fix}
    (made : repairer.fixFor? outcome formula answer = some fix) : fix.formulaId = formula.id := by
  cases answer with
  | error trouble => cases made
  | ok reply => cases made; rfl

/-- The formulas of a batch about which the provider is asked, with its answers, in order. It is
asked about those that are fresh and are not being repaired when their turn has come. -/
def answersFrom (repairer : Repairer Outside problem) (epoch : Nat) :
    List Formula → Desk Outside → List (Formula × Except problem RepairReply)
  | [], _ => []
  | formula :: formulas, desk =>
      let later := repairer.answersFrom epoch formulas
        (if desk.document.epoch = epoch then (repairer.repair formula (some (epoch : Int)) desk).2
          else desk)
      if desk.isFresh formula epoch && !desk.isInFlight formula.id then
        (formula, (repairer.answer formula desk).1) :: later
      else later

theorem repairAll_eq (repairer : Repairer Outside problem) (formulas : List Formula)
    (desk : Desk Outside) :
    repairer.repairAll formulas desk = repairer.repairFrom desk.document.epoch formulas desk := rfl

/-- The answers to a batch. -/
def answers (repairer : Repairer Outside problem) (formulas : List Formula) (desk : Desk Outside) :
    List (Formula × Except problem RepairReply) :=
  repairer.answersFrom desk.document.epoch formulas desk

/-- The outcome of rendering depends on the sample alone, and the renderer and the provider keep to
the world outside. -/
structure Plain (repairer : Repairer Outside problem) (outcome : Sample → Except Refusal Text) :
    Prop where
  renderer : repairer.renderer.Plain outcome
  provides : ∀ request, Within OnlyOutside (repairer.provider.repair request)

variable {repairer : Repairer Outside problem} {formulas : List Formula}

/-- What a repair comes to on a desk, given the answer of the provider and the outcome of rendering
its reply. -/
def resultFor (repairer : Repairer Outside problem) (outcome : Sample → Except Refusal Text)
    (desk : Desk Outside) (formula : Formula) (answer : Except problem RepairReply) :
    Except (RepairProblem problem) (Option Fix) :=
  if !desk.knows formula then .ok none
  else if desk.isInFlight formula.id then .error (.running formula.id)
  else match answer with
    | .error trouble => .error (.provider trouble)
    | .ok _ =>
        .ok ((desk.registry.formula? formula.id).bind fun known =>
          repairer.fixFor? outcome known answer)

/-- A repair of the document version on the desk comes to the result for the answer. It stores the
fix in it, when there is one, and does nothing else to the document, its registry and the marks. -/
theorem repair_of_unmoved (steady : repairer.renderer.Steady outcome)
    (renders : ∀ sample, Within Unmoved (repairer.renderer sample))
    (provides : ∀ request, Within OnlyOutside (repairer.provider.repair request))
    {desk : Desk Outside} (truthful : desk.cache.Truthful outcome) (formula : Formula) :
    let result := repairer.resultFor outcome desk formula (repairer.answer formula desk).1
    let ended := repairer.repair formula (some (desk.document.epoch : Int)) desk
    ended.1 = result ∧
      Unmoved { desk with registry :=
        (RepairResult.ofRepair result).fix?.elim desk.registry desk.registry.store } ended.2 ∧
      ended.2.cache.Truthful outcome := by
  intro result ended
  have fresh_eq : desk.isFresh formula desk.document.epoch = desk.knows formula := by
    simp [isFresh]
  obtain ⟨world, left⟩ : ∃ world,
      (repairer.answer formula desk).2 = { desk.mark formula.id with outside := world } :=
    ⟨_, provides _ _⟩
  have ends := repairer.ends_repair formula (some (desk.document.epoch : Int)) desk
  rw [Option.getD_some] at ends
  change repairer.Ends formula desk.document.epoch desk ended.1 ended.2 at ends
  have comes (fresh : desk.isFresh formula desk.document.epoch = true)
      (free : desk.isInFlight formula.id = false) :
      result = match (repairer.answer formula desk).1 with
        | .error trouble => .error (.provider trouble)
        | .ok reply => .ok ((desk.registry.formula? formula.id).bind fun known =>
            repairer.fixFor? outcome known (.ok reply)) := by
    simp only [result, resultFor, ← fresh_eq, fresh, free]
    cases (repairer.answer formula desk).1 <;> rfl
  have unmarked (free : desk.isInFlight formula.id = false) :
      (formula.id :: desk.inFlight).filter (· != formula.id) = desk.inFlight :=
    congrArg inFlight (unmark_mark free)
  generalize ended = done at ends ⊢
  obtain ⟨reached, after⟩ := done
  dsimp only at ends ⊢
  cases ends with
  | outdated outdated =>
    have result_eq : result = .ok none := by simp [result, resultFor, ← fresh_eq, outdated]
    rw [result_eq]
    exact ⟨rfl, Std.Refl.refl _, truthful⟩
  | running fresh running =>
    have result_eq : result = .error (.running formula.id) := by
      simp [result, resultFor, ← fresh_eq, fresh, running]
    rw [result_eq]
    exact ⟨rfl, Std.Refl.refl _, truthful⟩
  | failed fresh free answered =>
    rw [comes fresh free, answered, left]
    exact ⟨rfl, ⟨rfl, rfl, unmarked free⟩, truthful⟩
  -- The desk is as fresh behind the answer as it was in front of it.
  | overtaken fresh _ _ overtaken =>
    rw [left] at overtaken
    exact absurd fresh (Bool.eq_false_iff.mp overtaken)
  | @proposed reply fix proposed fresh free answered _ proposes =>
    obtain ⟨known, found, -⟩ := exists_of_isFresh fresh
    rw [left] at proposes
    obtain ⟨made, ⟨document, registry, inFlight⟩, done⟩ :=
      steady.propose_eq renders proposes truthful found
    obtain ⟨-, named⟩ := Registry.formula?_eq_some found
    cases made
    simp only [comes fresh free, answered, found, Option.bind_some, fixFor?, named]
    refine ⟨trivial, ⟨document, registry, ?_⟩, done⟩
    exact (congrArg (List.filter (· != formula.id)) inFlight).trans (unmarked free)

/-- To keep a fix or none does not change the formulas of a registry. -/
theorem formulas_elim_store (registry : Registry) (made : Option Fix) :
    (made.elim registry registry.store).formulas = registry.formulas := by
  cases made with
  | none => rfl
  | some fix => exact Registry.store_formulas registry fix

/-- A repair stores a fix for a reply and does nothing else to the desk. -/
theorem Plain.repair (plain : repairer.Plain outcome)
    (distinct : (formulas.map Formula.id).Nodup) {desk : Desk Outside}
    (working : desk.AtWork outcome formulas) {formula : Formula} (member : formula ∈ formulas) :
    (desk.isFresh formula desk.document.epoch && !desk.isInFlight formula.id) = true ∧
      let ended := (repairer.repair formula (some (desk.document.epoch : Int)) desk).2
      ended.document = desk.document ∧ ended.AtWork outcome formulas ∧
        ended.registry =
          (repairer.fixFor? outcome formula (repairer.answer formula desk).1).elim desk.registry
            desk.registry.store := by
  have known : desk.registry.formula? formula.id = some formula := by
    rw [← working.formulas] at distinct member
    exact Registry.formula?_of_mem distinct member
  have knows : desk.knows formula = true := by simp [knows, known]
  have free : desk.isInFlight formula.id = false := by simp [isInFlight, working.idle]
  refine ⟨by simp [isFresh, knows, free], ?_⟩
  obtain ⟨-, unmoved, done⟩ := repair_of_unmoved plain.renderer.steady plain.renderer.unmoved
    plain.provides working.truthful formula
  have fix?_eq : (RepairResult.ofRepair (repairer.resultFor outcome desk formula
      (repairer.answer formula desk).1)).fix? =
        repairer.fixFor? outcome formula (repairer.answer formula desk).1 := by
    cases (repairer.answer formula desk).1 <;>
      simp [resultFor, knows, free, known, fixFor?, RepairResult.ofRepair, RepairResult.fix?]
  rw [fix?_eq] at unmoved
  refine ⟨unmoved.document, ⟨?_, unmoved.inFlight.trans working.idle, done⟩, unmoved.registry⟩
  rw [unmoved.registry, ← working.formulas]
  exact formulas_elim_store _ _

/-- The first answer about a formula puts its fix, if there is one, behind those of the other ones.
-/
private theorem fixes_of_new {desk : Desk Outside} {formula : Formula}
    {answer : Except problem RepairReply}
    (new : ∀ kept ∈ desk.registry.fixes, kept.formulaId ≠ formula.id) :
    ((repairer.fixFor? outcome formula answer).elim desk.registry desk.registry.store).fixes =
      desk.registry.fixes ++ (repairer.fixFor? outcome formula answer).toList := by
  cases made : repairer.fixFor? outcome formula answer with
  | none => simp
  | some fix =>
    rw [← fixFor?_formulaId made] at new
    exact congrArg Registry.fixes (Registry.store_of_new new)

/-- A batch asks about each of its formulas, and stores a fix for each reply. By induction on the
batch: the repair of one formula leaves the desk ready for the other ones. -/
theorem Plain.repairAll (plain : repairer.Plain outcome)
    (distinct : (formulas.map Formula.id).Nodup) {batch : List Formula}
    (listed : ∀ formula ∈ batch, formula ∈ formulas) (once : (batch.map Formula.id).Nodup)
    {desk : Desk Outside} (working : desk.AtWork outcome formulas)
    (new : ∀ kept ∈ desk.registry.fixes, ∀ formula ∈ batch, kept.formulaId ≠ formula.id) :
    let answers := repairer.answers batch desk
    let ended := (repairer.repairAll batch desk).2
    answers.map Prod.fst = batch ∧ ended.document = desk.document ∧
      ended.AtWork outcome formulas ∧
      ended.registry.fixes = desk.registry.fixes ++
        answers.filterMap fun asked => repairer.fixFor? outcome asked.1 asked.2 := by
  induction batch generalizing desk with
  | nil => exact ⟨rfl, rfl, working, (List.append_nil _).symm⟩
  | cons formula batch ih =>
    obtain ⟨member, listed⟩ := List.forall_mem_cons.mp listed
    obtain ⟨fresh, once⟩ := List.nodup_cons.mp once
    have newHere : ∀ kept ∈ desk.registry.fixes, kept.formulaId ≠ formula.id :=
      fun kept here => new kept here formula (List.mem_cons_self ..)
    obtain ⟨asked, document, ready, registry⟩ :=
      plain.repair distinct working member
    have fixes := (congrArg Registry.fixes registry).trans (fixes_of_new newHere)
    have newLater : ∀ kept ∈ (repairer.repair formula (some (desk.document.epoch : Int))
        desk).2.registry.fixes, ∀ other ∈ batch, kept.formulaId ≠ other.id := by
      intro kept here other later same
      rw [fixes] at here
      rcases List.mem_append.mp here with here | here
      · exact new kept here other (List.mem_cons_of_mem _ later) same
      · have named := fixFor?_formulaId (Option.mem_toList.mp here)
        exact fresh (List.mem_map.mpr ⟨other, later, same.symm.trans named⟩)
    have rest := ih listed once ready newLater
    simp only [answers, repairAll_eq, document, fixes] at rest
    simp only [answers, repairAll_eq, repairFrom_cons, answersFrom, asked, ↓reduceIte]
    obtain ⟨askedLater, documentLater, readyLater, fixesLater⟩ := rest
    refine ⟨by rw [List.map_cons, askedLater], documentLater, readyLater, ?_⟩
    rw [fixesLater, List.filterMap_cons, List.append_assoc]
    cases repairer.fixFor? outcome formula (repairer.answer formula desk).1 <;> rfl

/-- Among the fixes that come of answers, the one under the id of a formula comes of the answer
about it. -/
theorem find?_fixes (repairer : Repairer Outside problem) (outcome : Sample → Except Refusal Text)
    {answers : List (Formula × Except problem RepairReply)}
    (distinct : (answers.map fun asked => asked.1.id).Nodup)
    {asked : Formula × Except problem RepairReply} (member : asked ∈ answers) :
    (answers.filterMap fun asked => repairer.fixFor? outcome asked.1 asked.2).find?
        (·.formulaId == asked.1.id) = repairer.fixFor? outcome asked.1 asked.2 := by
  cases found : (answers.filterMap fun asked => repairer.fixFor? outcome asked.1 asked.2).find?
      (·.formulaId == asked.1.id) with
  | none =>
    cases made : repairer.fixFor? outcome asked.1 asked.2 with
    | none => rfl
    | some fix =>
      have absent := List.find?_eq_none.mp found fix (List.mem_filterMap.mpr ⟨asked, member, made⟩)
      simp [fixFor?_formulaId made] at absent
  | some fix =>
    obtain ⟨other, listed, made⟩ := List.mem_filterMap.mp (List.mem_of_find?_eq_some found)
    have named : fix.formulaId = asked.1.id := by simpa using List.find?_some found
    have same : other.1.id = asked.1.id := (fixFor?_formulaId made).symm.trans named
    rw [List.inj_on_of_nodup_map distinct listed member same] at made
    exact made.symm

end Repairer

end FormulaRepair
