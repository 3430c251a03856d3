import FormulaRepair.Proofs.Desk.Batch
import FormulaRepair.Proofs.Registry.Decisions

/-! # Where a reported fix is to be found

A repair looks twice at the version that it was started for: before it asks the provider, and when the
reply comes in. The reply is validated only then, and a typesetter that takes its time may let another
document be loaded, or the same one be analyzed again. The fix is proposed to the registry that was
open before, and is reported all the same. So a reported fix can be relied on as long as no registry
has been opened while its reply was validated.
-/

namespace FormulaRepair

variable {World problem : Type}

private theorem RepairResult.ofRepair_eq_fixed
    {result : Except (RepairProblem problem) (Option Fix)} {fix : Fix} :
    ofRepair result = .fixed fix ↔ result = .ok (some fix) := by
  cases result with
  | error problem => simp [ofRepair]
  | ok fix? => cases fix? <;> simp [ofRepair]

/-- What a fix for a formula of the given version is worth when it is reported: `asked` is the desk at
the time of the reply, and `left` the one at the time of the report. -/
structure Reported (renderer : Renderer (Desk World)) (formula : Formula) (version : Int)
    (asked left : Desk World) (fix : Fix) : Prop where
  formulaId : fix.formulaId = formula.id
  pending : fix.status = .pending
  epoch_eq : asked.document.epoch = version
  known : ∃ known ∈ asked.document.formulas, known.id = formula.id ∧
    known.startOffset = formula.startOffset ∧ known.endOffset = formula.endOffset ∧
    known.rawWithDelimiters = formula.rawWithDelimiters
  /-- While the registry is the same, so is the version, and the fix is in the registry. -/
  kept : left.registry.edition = asked.registry.edition →
    left.document.epoch = version ∧ left.registry.fix? formula.id = some fix
  /-- When another registry has been opened, the desk is as the validation left it. -/
  lost : left.registry.edition ≠ asked.registry.edition → ∃ display,
    left = (renderer.validate ⟨fix.fixedRaw, display⟩ asked).2.unmark formula.id

namespace Repairer

variable {repairer : Repairer World problem} {formula : Formula} {version : Int}
  {here left : Desk World} {result : Except (RepairProblem problem) (Option Fix)}

theorem Ends.reported {made : Proposal → Prop}
    (renders : ∀ sample, Within (Desk.Course made) (repairer.renderer sample))
    (versioned : (repairer.answer formula here).2.Versioned made) {fix : Fix}
    (ends : repairer.Ends formula version here (.ok (some fix)) left) :
    Reported repairer.renderer formula version (repairer.answer formula here).2 left fix := by
  obtain ⟨still, reply, proposed, -, proposes, rfl⟩ := ends.exists_of_fixed
  generalize (repairer.answer formula here).2 = asked at *
  obtain ⟨same, known⟩ := versioned.exists_of_isFresh still
  obtain ⟨listed, verdict, validated, validates, rfl, stored⟩ := Desk.exists_of_propose proposes
  have course := Desk.course_validate renders validates
  by_cases edition : validated.registry.edition = asked.registry.edition
  · rw [if_pos edition] at stored
    subst stored
    refine ⟨rfl, rfl, same, known, fun _ => ⟨?_, ?_⟩, fun replaced => ?_⟩
    · rw [← same]
      exact congrArg Nat.cast ((course.carries versioned).2.epoch_eq edition.symm)
    · exact (Registry.fix?_store validated.registry _ formula.id).trans (if_pos rfl)
    · exact absurd ((Registry.store_edition validated.registry _).trans edition) replaced
  · rw [if_neg edition] at stored
    subst stored
    refine ⟨rfl, rfl, same, known, fun unchanged => absurd unchanged edition, fun _ => ?_⟩
    exact ⟨listed.delimiter.isDisplay, congrArg (fun ended => ended.2.unmark formula.id) validates.symm⟩

/-- A version that is not on the desk is not repaired. -/
theorem Ends.of_other (ends : repairer.Ends formula version here result left)
    (other : (here.document.epoch : Int) ≠ version) : result = .ok none ∧ left = here := by
  have old : here.isFresh formula version = false := by
    rw [Desk.isFresh, beq_false_of_ne other.symm, Bool.false_and]
  cases ends with
  | outdated => exact ⟨rfl, rfl⟩
  | running fresh => simp [old] at fresh
  | failed fresh => simp [old] at fresh
  | overtaken fresh => simp [old] at fresh
  | proposed fresh => simp [old] at fresh

/-- A reply for a version that is no longer on the desk when it comes in is not kept. -/
theorem Ends.of_overtaken (ends : repairer.Ends formula version here result left)
    (free : here.isInFlight formula.id = false) {reply : RepairReply}
    (answered : (repairer.answer formula here).1 = .ok reply)
    (other : ((repairer.answer formula here).2.document.epoch : Int) ≠ version) :
    result = .ok none := by
  cases ends with
  | outdated => rfl
  | running _ running => simp [free] at running
  | failed _ _ failed => simp [answered] at failed
  | overtaken => rfl
  | proposed _ _ _ still =>
    obtain ⟨_, _, same, -⟩ := Desk.exists_of_isFresh still
    exact absurd same.symm other

/-- The outcome for a formula of a batch is the one of its turn. -/
theorem getElem?_repairAll (repairer : Repairer World problem) (before : List Formula)
    (formula : Formula) (after : List Formula) (desk : Desk World) :
    (repairer.repairAll (before ++ formula :: after) desk).1[before.length]? =
      some ⟨formula.id,
        (repairer.turn desk.document.epoch formula (repairer.repairAll before desk).2).1⟩ := by
  rw [repairAll_append, List.getElem?_append_right (repairer.length_repairAll before desk).le,
    length_repairAll, Nat.sub_self, repairFrom_cons_turn]
  rfl

/-- A reported fix belongs to the formula and is pending, and its version was on the desk when the
provider replied, with a formula of the same id, span and text. If no registry has been opened since,
the version is still there and the registry holds the fix under the id of the formula; otherwise the
desk is as the validation left it, and the fix has been stored nowhere. When the version is not on the
desk at the beginning, or no longer when the reply comes in, there is no fix. The same goes for each
formula of a batch at the end of its turn. -/
theorem reported_while_registry_stays {start desk : Desk World} (blank : start.Blank)
    (reached : Desk.Course (fun _ => True) start desk) (repairer : Repairer World problem)
    (renders : ∀ sample, Within (Desk.Course fun _ => True) (repairer.renderer sample))
    (provides : ∀ request, Within (Desk.Course fun _ => True) (repairer.provider.repair request)) :
    (∀ formula epoch,
      let version := epoch.getD desk.document.epoch
      let asked := repairer.answer formula desk
      let ended := repairer.repair formula epoch desk
      (∀ fix, ended.1 = .ok (some fix) →
        Reported repairer.renderer formula version asked.2 ended.2 fix) ∧
      ((desk.document.epoch : Int) ≠ version → ended = (.ok none, desk)) ∧
      (∀ reply, desk.isInFlight formula.id = false → asked.1 = .ok reply →
        (asked.2.document.epoch : Int) ≠ version → ended.1 = .ok none)) ∧
    ∀ before formula after,
      let here := (repairer.repairAll before desk).2
      let asked := repairer.answer formula here
      let left := (repairer.repairAll (before ++ [formula]) desk).2
      ∃ result, (repairer.repairAll (before ++ formula :: after) desk).1[before.length]? =
          some ⟨formula.id, result⟩ ∧
        (∀ fix, result = .fixed fix →
          Reported repairer.renderer formula desk.document.epoch asked.2 left fix) ∧
        (here.document.epoch ≠ desk.document.epoch → result = .stale ∧ left = here) ∧
        (∀ reply, here.isInFlight formula.id = false → asked.1 = .ok reply →
          asked.2.document.epoch ≠ desk.document.epoch → result = .stale) := by
  have versioned (here : Desk World) (onward : Desk.Course (fun _ => True) desk here)
      (formula : Formula) : (repairer.answer formula here).2.Versioned fun _ => True := by
    have marked : Desk.Course (fun _ => True) here (here.mark formula.id) := .idle rfl rfl
    exact (((reached.trans onward).trans (marked.trans (provides _ _))).carries blank.versioned).1
  refine ⟨fun formula epoch => ?_, fun before formula after => ?_⟩
  · intro version asked ended
    have ends : repairer.Ends formula version desk ended.1 ended.2 :=
      repairer.ends_repair formula epoch desk
    refine ⟨fun fix fixed => ?_, fun other => ?_, fun reply free answered other => ?_⟩
    · rw [fixed] at ends
      exact ends.reported renders (versioned desk (.idle rfl rfl) formula)
    · obtain ⟨none, same⟩ := ends.of_other other
      exact Prod.ext none same
    · exact ends.of_overtaken free answered other
  · intro here asked left
    have left_eq : left = (repairer.turn desk.document.epoch formula here).2 :=
      congrArg Prod.snd (repairer.repairAll_next before formula desk)
    refine ⟨_, repairer.getElem?_repairAll before formula after desk, ?_⟩
    rw [left_eq, turn_eq]
    by_cases current : here.document.epoch = desk.document.epoch
    · rw [if_pos current]
      have ends := repairer.ends_repair formula (some (desk.document.epoch : Int)) here
      refine ⟨fun fix fixed => ?_, fun other => absurd current other,
        fun reply free answered other => ?_⟩
      · rw [RepairResult.ofRepair_eq_fixed.mp fixed] at ends
        have course := Desk.course_repairAll renders provides before desk fun _ _ _ _ _ => trivial
        exact ends.reported renders (versioned here course formula)
      · have none := ends.of_overtaken free answered fun same => other (Int.ofNat_inj.mp same)
        exact congrArg RepairResult.ofRepair none
    · rw [if_neg current]
      refine ⟨fun fix fixed => ?_, fun _ => ⟨rfl, rfl⟩, fun _ _ _ _ => rfl⟩
      cases fixed

/-- A provider that replies at once, and a renderer with something that happens to the desk when it is
asked about the reply. -/
def meddling (happens : Desk Unit → Desk Unit) : Repairer Unit Unit where
  renderer sample := fun desk => (.ok [], if sample.latex = ['y'] then happens desk else desk)
  provider := { name := "scribe".toList, repair := fun _ => pure (.ok ⟨['y'], []⟩) }
  contextSize := 0

theorem reported_while_registry_stays_calm :
    let blank : Desk Unit := { cache := default, pool := default, pooled := false, outside := () }
    let desk := (blank.load none "a $x$".toList).setFormulas [Desk.lookalike]
    let fix := Fix.propose Desk.lookalike Desk.lookalike.id ['y'] ⟨true, none, some []⟩
      "scribe:".toList
    let ended := (meddling id).repair Desk.lookalike none desk
    ended.1 = .ok (some fix) ∧ (ended.2.document.epoch : Int) = 1 ∧
      ended.2.registry.fix? Desk.lookalike.id = some fix := by
  intro blank desk fix ended
  have reached : Desk.Course (fun _ => True) blank desk :=
    .trans (.load blank none _) (.setFormulas _ _)
  have renders (sample : Sample) :
      Within (Desk.Course fun _ => True) ((meddling id).renderer sample) := by
    intro desk
    unfold meddling
    dsimp only
    split <;> exact .idle rfl rfl
  have reports := reported_while_registry_stays ⟨rfl, rfl⟩ reached (meddling id) renders
    fun _ _ => .idle rfl rfl
  have reported := (reports.1 Desk.lookalike none).1 fix rfl
  exact ⟨rfl, reported.kept rfl⟩

/-- The fix is reported although another document has been loaded, or the same one analyzed again,
while the reply was validated. -/
theorem reported_though_registry_replaced :
    let blank : Desk Unit := { cache := default, pool := default, pooled := false, outside := () }
    let analyzed (desk : Desk Unit) := (Desk.analyze (fun _ => pure (.ok [])) desk).2
    let desk := analyzed (blank.load none "a $x$".toList)
    let fix := Fix.propose Desk.lookalike Desk.lookalike.id ['y'] ⟨true, none, some []⟩
      "scribe:".toList
    let loading := meddling (·.load none "b $x$".toList)
    let loaded := loading.repair Desk.lookalike none desk
    let again := (meddling analyzed).repair Desk.lookalike none desk
    desk.document.formulas.map Formula.id = [Desk.lookalike.id] ∧ desk.document.epoch = 1 ∧
      loaded.1 = .ok (some fix) ∧ loaded.2.document.epoch = 2 ∧
      loaded.2.registry.fix? Desk.lookalike.id = none ∧
      (loading.repairAll [Desk.lookalike] desk).1 = [⟨Desk.lookalike.id, .fixed fix⟩] ∧
      again.1 = .ok (some fix) ∧ again.2.document.epoch = 1 ∧
      again.2.registry.fix? Desk.lookalike.id = none := by
  intro blank analyzed desk fix loading loaded again
  refine ⟨?_, ?_, ?_, ?_, ?_, ?_, ?_, ?_, ?_⟩ <;> decide +kernel

end Repairer

end FormulaRepair
