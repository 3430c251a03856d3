import FormulaRepair.Proofs.Desk.Batch
import FormulaRepair.Proofs.Desk.Undisturbed
import FormulaRepair.Proofs.Registry.Decisions

/-! # The formulas of a batch do not depend on one another

When a provider replies to each request in its own way, and typesetters and providers leave the
documents to the repairs, the repairs of a batch share nothing that matters to them. What is cached
are the verdicts that would be given anyway, each mark is gone at the end of its turn, and a fix
concerns its own formula alone. So every formula fares as if it were the only one.
-/

namespace FormulaRepair

variable {Outside problem : Type}

namespace Registry

/-- Store fixes one after the other. -/
def storeAll (registry : Registry) (fixes : List Fix) : Registry := fixes.foldl store registry

/-- A formula without one of the fixes keeps what it has. -/
theorem fix?_storeAll_of_absent {registry : Registry} {fixes : List Fix} {id : Text}
    (absent : ∀ fix ∈ fixes, fix.formulaId ≠ id) :
    (registry.storeAll fixes).fix? id = registry.fix? id := by
  induction fixes generalizing registry with
  | nil => rfl
  | cons fix fixes ih =>
    obtain ⟨other, absent⟩ := List.forall_mem_cons.mp absent
    exact (ih absent).trans ((fix?_store registry fix id).trans (if_neg other))

/-- Of fixes for different formulas, each one is kept. -/
theorem fix?_storeAll_of_mem {registry : Registry} {fixes : List Fix}
    (distinct : (fixes.map Fix.formulaId).Nodup) {fix : Fix} (member : fix ∈ fixes) :
    (registry.storeAll fixes).fix? fix.formulaId = some fix := by
  induction fixes generalizing registry with
  | nil => cases member
  | cons first fixes ih =>
    obtain ⟨fresh, distinct⟩ := List.nodup_cons.mp distinct
    rcases List.mem_cons.mp member with rfl | later
    · have absent : ∀ other ∈ fixes, other.formulaId ≠ fix.formulaId := fun other here same =>
        fresh (List.mem_map.mpr ⟨other, here, same⟩)
      exact (fix?_storeAll_of_absent absent).trans ((fix?_store ..).trans (if_pos rfl))
    · exact ih distinct later

end Registry

open Desk

/-- What the repairer is asked for has an outcome of its own, whatever the desk is like, and the
documents are left to the repairs. -/
structure Repairer.Steady (repairer : Repairer Outside problem)
    (outcome : Sample → Except Refusal Text)
    (reply : RepairRequest → Except problem RepairReply) : Prop where
  renderer : repairer.renderer.Steady outcome
  renders : ∀ sample, Within Unmoved (repairer.renderer sample)
  reply_eq : ∀ request desk, (repairer.provider.repair request desk).1 = reply request
  provides : ∀ request, Within OnlyOutside (repairer.provider.repair request)

namespace Repairer

variable {repairer : Repairer Outside problem} {outcome : Sample → Except Refusal Text}
  {reply : RepairRequest → Except problem RepairReply}

/-- What the repair of a formula comes to, foretold from the outcome of rendering and the reply. -/
def foretold (repairer : Repairer Outside problem) (outcome : Sample → Except Refusal Text)
    (reply : RepairRequest → Except problem RepairReply) (desk : Desk Outside)
    (formula : Formula) : RepairResult problem :=
  .ofRepair (repairer.resultFor outcome desk formula
    (reply (.about desk.document.loaded formula repairer.contextSize)))

/-- Nothing of the desk matters for that but the document, the formulas of its registry and the
marks. -/
theorem foretold_congr {desk other : Desk Outside} (document : other.document = desk.document)
    (formulas : other.registry.formulas = desk.registry.formulas)
    (inFlight : other.inFlight = desk.inFlight) :
    repairer.foretold outcome reply other = repairer.foretold outcome reply desk := by
  funext formula
  have found : other.registry.formula? formula.id = desk.registry.formula? formula.id := by
    rw [Registry.formula?, formulas, Registry.formula?]
  have known : other.knows formula = desk.knows formula := by rw [knows, found, knows]
  have running : other.isInFlight formula.id = desk.isInFlight formula.id := by
    rw [isInFlight, inFlight, isInFlight]
  unfold foretold resultFor
  rw [known, running, found, document]

/-- A fix that is foretold is a new one for the formula. -/
theorem of_foretold {desk : Desk Outside} {formula : Formula} {fix : Fix}
    (made : (repairer.foretold outcome reply desk formula).fix? = some fix) :
    fix.formulaId = formula.id ∧ fix.status = .pending := by
  unfold foretold resultFor at made
  split at made
  · cases made
  · split at made
    · cases made
    · cases replied : reply (.about desk.document.loaded formula repairer.contextSize) with
      | error trouble =>
        rw [replied] at made
        cases made
      | ok answer =>
        rw [replied] at made
        cases found : desk.registry.formula? formula.id with
        | none =>
          rw [found] at made
          cases made
        | some known =>
          rw [found] at made
          cases made
          exact ⟨(Registry.formula?_eq_some found).2, rfl⟩

theorem repair_none (repairer : Repairer Outside problem) (formula : Formula)
    (desk : Desk Outside) :
    repairer.repair formula none desk =
      repairer.repair formula (some (desk.document.epoch : Int)) desk := by
  rw [repair_eq, repair_eq]
  rfl

theorem Steady.repair (steady : repairer.Steady outcome reply) {desk : Desk Outside}
    (truthful : desk.cache.Truthful outcome) (formula : Formula) :
    let result := repairer.foretold outcome reply desk formula
    let ended := repairer.repair formula none desk
    .ofRepair ended.1 = result ∧
      Unmoved { desk with registry := result.fix?.elim desk.registry desk.registry.store } ended.2 ∧
      ended.2.cache.Truthful outcome := by
  have answered : (repairer.answer formula desk).1 =
      reply (.about desk.document.loaded formula repairer.contextSize) := steady.reply_eq _ _
  rw [foretold, ← answered, repair_none]
  obtain ⟨same, rest⟩ :=
    repair_of_unmoved steady.renderer steady.renders steady.provides truthful formula
  exact ⟨congrArg RepairResult.ofRepair same, rest⟩

/-- Behind a repair, the same is foretold as in front of it. -/
theorem foretold_of_unmoved {desk other : Desk Outside} {made : Option Fix}
    (unmoved : Unmoved { desk with registry := made.elim desk.registry desk.registry.store }
      other) :
    repairer.foretold outcome reply other = repairer.foretold outcome reply desk :=
  foretold_congr unmoved.document
    ((congrArg Registry.formulas unmoved.registry).trans (formulas_elim_store _ made))
    unmoved.inFlight

/-- A batch comes to what is foretold for each of its formulas before it begins, and stores the
fixes in that. -/
theorem Steady.repairAll (steady : repairer.Steady outcome reply) {desk : Desk Outside}
    (truthful : desk.cache.Truthful outcome) (formulas : List Formula) :
    let result := repairer.foretold outcome reply desk
    let made := formulas.filterMap fun formula => (result formula).fix?
    let ended := repairer.repairAll formulas desk
    ended.1 = formulas.map (fun formula => ⟨formula.id, result formula⟩) ∧
      Unmoved { desk with registry := desk.registry.storeAll made } ended.2 := by
  induction formulas generalizing desk with
  | nil => exact ⟨rfl, Std.Refl.refl _⟩
  | cons formula formulas ih =>
    obtain ⟨same, unmoved, done⟩ := steady.repair truthful formula
    obtain ⟨outcomes, rest⟩ := ih done
    rw [foretold_of_unmoved unmoved] at outcomes rest
    obtain ⟨document, registry, inFlight⟩ := unmoved
    dsimp only at document registry inFlight
    rw [repairAll_eq, document, repair_none] at outcomes rest
    rw [repair_none] at same registry inFlight
    rw [repairAll_eq, repairFrom_cons, if_pos rfl]
    dsimp only
    rw [outcomes, same]
    refine ⟨rfl, rest.document, rest.registry.trans ?_, rest.inFlight.trans inFlight⟩
    dsimp only
    rw [registry, List.filterMap_cons]
    cases (repairer.foretold outcome reply desk formula).fix? <;> rfl

/-- The fixes of a batch are for different formulas when its formulas have ids of their own. -/
theorem nodup_foretold {desk : Desk Outside} {formulas : List Formula}
    (distinct : (formulas.map Formula.id).Nodup) :
    ((formulas.filterMap fun formula =>
      (repairer.foretold outcome reply desk formula).fix?).map Fix.formulaId).Nodup := by
  refine List.pairwise_map.mpr (List.pairwise_filterMap.mpr ?_)
  refine (List.pairwise_map.mp distinct).imp fun differ fix made other madeOther => ?_
  rw [(of_foretold made).1, (of_foretold madeOther).1]
  exact differ

/-- The registry behind a batch has the new fix of each formula that got one, and what it had before
for all other ones. -/
theorem Steady.fix?_repairAll (steady : repairer.Steady outcome reply) {desk : Desk Outside}
    (truthful : desk.cache.Truthful outcome) {formulas : List Formula}
    (distinct : (formulas.map Formula.id).Nodup) :
    let result := repairer.foretold outcome reply desk
    let ended := repairer.repairAll formulas desk
    (∀ formula ∈ formulas, ∀ fix, (result formula).fix? = some fix →
      ended.2.registry.fix? formula.id = some fix) ∧
    ∀ id, (∀ formula ∈ formulas, formula.id = id → (result formula).fix? = none) →
      ended.2.registry.fix? id = desk.registry.fix? id := by
  obtain ⟨-, -, registry, -⟩ := steady.repairAll truthful formulas
  refine ⟨fun formula member fix made => ?_, fun id unfixed => ?_⟩
  · rw [registry, ← (of_foretold made).1]
    exact Registry.fix?_storeAll_of_mem (nodup_foretold distinct)
      (List.mem_filterMap.mpr ⟨formula, member, made⟩)
  · rw [registry]
    refine Registry.fix?_storeAll_of_absent fun fix listed same => ?_
    obtain ⟨formula, member, made⟩ := List.mem_filterMap.mp listed
    rw [unfixed formula member ((of_foretold made).1.symm.trans same)] at made
    cases made

/-- Only the formulas that get a fix matter for the registry behind a batch. -/
theorem Steady.fix?_repairAll_eq (steady : repairer.Steady outcome reply) {desk : Desk Outside}
    (truthful : desk.cache.Truthful outcome) {formulas kept : List Formula}
    (distinct : (formulas.map Formula.id).Nodup) (distinctKept : (kept.map Formula.id).Nodup)
    (listed : kept ⊆ formulas)
    (failing : ∀ formula ∈ formulas, formula ∉ kept →
      (repairer.foretold outcome reply desk formula).fix? = none) :
    (repairer.repairAll kept desk).2.registry.fix? =
      (repairer.repairAll formulas desk).2.registry.fix? := by
  obtain ⟨fixed, unfixed⟩ := steady.fix?_repairAll truthful distinct
  obtain ⟨fixedKept, unfixedKept⟩ := steady.fix?_repairAll truthful distinctKept
  funext id
  by_cases gets : ∃ formula ∈ formulas, formula.id = id ∧
      ∃ fix, (repairer.foretold outcome reply desk formula).fix? = some fix
  · obtain ⟨formula, member, rfl, fix, made⟩ := gets
    have memberKept : formula ∈ kept := by
      by_contra absent
      rw [failing formula member absent] at made
      cases made
    rw [fixed formula member fix made, fixedKept formula memberKept fix made]
  · have none_of (formula : Formula) (member : formula ∈ formulas) (named : formula.id = id) :
        (repairer.foretold outcome reply desk formula).fix? = none :=
      Option.eq_none_iff_forall_ne_some.mpr fun fix made => gets ⟨formula, member, named, fix, made⟩
    rw [unfixed id none_of, unfixedKept id fun formula member => none_of formula (listed member)]

/-- The formulas of a batch fare as if each were the only one, and the registry gets the new fixes
of those that are repaired and keeps what it has for the other ones. In another order the batch has
the same outcomes in that order, and without formulas that get no fix it has the outcomes of the
other ones; the registry is the same then, as far as the fix of each formula goes. -/
theorem repairAll_independent (steady : repairer.Steady outcome reply) {desk : Desk Outside}
    (truthful : desk.cache.Truthful outcome) {formulas : List Formula}
    (distinct : (formulas.map Formula.id).Nodup) :
    let alone formula := RepairResult.ofRepair (repairer.repair formula none desk).1
    let ended := repairer.repairAll formulas desk
    ended.1 = formulas.map (fun formula => ⟨formula.id, alone formula⟩) ∧
    (∀ formula ∈ formulas, ∀ fix, (alone formula).fix? = some fix →
      fix.formulaId = formula.id ∧ fix.status = .pending ∧
        ended.2.registry.fix? formula.id = some fix) ∧
    (∀ id, (∀ formula ∈ formulas, formula.id = id → (alone formula).fix? = none) →
      ended.2.registry.fix? id = desk.registry.fix? id) ∧
    (∀ other, other.Perm formulas →
      (repairer.repairAll other desk).1.Perm ended.1 ∧
      (repairer.repairAll other desk).2.registry.fix? = ended.2.registry.fix?) ∧
    ∀ kept, kept.Sublist formulas →
      (∀ formula ∈ formulas, formula ∉ kept → (alone formula).fix? = none) →
      (repairer.repairAll kept desk).1.Sublist ended.1 ∧
      (repairer.repairAll kept desk).2.registry.fix? = ended.2.registry.fix? := by
  intro alone ended
  have alone_eq : alone = repairer.foretold outcome reply desk :=
    funext fun formula => (steady.repair truthful formula).1
  have outcomes (batch : List Formula) : (repairer.repairAll batch desk).1 =
      batch.map fun formula => ⟨formula.id, alone formula⟩ := by
    rw [alone_eq]
    exact (steady.repairAll truthful batch).1
  rw [alone_eq] at outcomes ⊢
  obtain ⟨fixed, unfixed⟩ := steady.fix?_repairAll truthful distinct
  refine ⟨outcomes formulas, fun formula member fix made => ?_, unfixed, fun other perm => ?_,
    fun kept sublist failing => ?_⟩
  · exact ⟨(of_foretold made).1, (of_foretold made).2, fixed formula member fix made⟩
  · refine ⟨?_, ?_⟩
    · rw [outcomes other, outcomes formulas]
      exact perm.map _
    · have distinctOther := (perm.map Formula.id).nodup_iff.mpr distinct
      exact steady.fix?_repairAll_eq truthful distinct distinctOther perm.subset
        fun formula member absent => absurd (perm.mem_iff.mpr member) absent
  · refine ⟨?_, ?_⟩
    · rw [outcomes kept, outcomes formulas]
      exact sublist.map _
    · exact steady.fix?_repairAll_eq truthful distinct ((sublist.map Formula.id).nodup distinct)
        sublist.subset failing

/-- All samples are typeset but one. -/
def typesetMost (sample : Sample) : Except Refusal Text :=
  if sample.latex = "b".toList then .error (.rejected "bare".toList) else .ok []

/-- For all formulas but one, that one is replied. -/
def replyMost (request : RepairRequest) : Except Text RepairReply :=
  if request.latex = "b".toList then .error "down".toList else .ok ⟨"b".toList, []⟩

/-- A repairer that typesets and replies like that. -/
def partly : Repairer Unit Text where
  renderer sample := pure (typesetMost sample)
  provider := { name := "scribe".toList, repair := fun request => pure (replyMost request) }
  contextSize := 0

theorem repairAll_independent_partly :
    let blank : Desk Unit := { cache := default, pool := default, pooled := false, outside := () }
    let desk := (Desk.analyze partly.renderer (blank.load none "$a$ $b$ $c$".toList)).2
    let formulas := desk.document.formulas
    let ended := partly.repairAll formulas desk
    formulas.map Formula.raw = ["a".toList, "b".toList, "c".toList] ∧
      (ended.1.map fun outcome => outcome.result.fix?.isSome) = [true, false, true] ∧
      (partly.repairAll formulas.reverse desk).1.Perm ended.1 ∧
      (partly.repairAll formulas.reverse desk).2.registry ≠ ended.2.registry ∧
      (partly.repairAll formulas.reverse desk).2.registry.fix? = ended.2.registry.fix? := by
  intro blank desk formulas ended
  have steady : partly.Steady typesetMost replyMost :=
    ⟨⟨fun _ _ => rfl, fun _ _ truthful => truthful⟩, fun _ _ => ⟨rfl, rfl, rfl⟩, fun _ _ => rfl,
      fun _ _ => rfl⟩
  have truthful : desk.cache.Truthful typesetMost := by
    unfold Cache.Truthful
    decide +kernel
  have distinct : (formulas.map Formula.id).Nodup := by decide +kernel
  obtain ⟨-, -, -, orders, -⟩ := repairAll_independent steady truthful distinct
  obtain ⟨outcomes, registry⟩ := orders formulas.reverse (List.reverse_perm formulas)
  exact ⟨by decide +kernel, by decide +kernel, outcomes, by decide +kernel, registry⟩

end Repairer

end FormulaRepair
