import FormulaRepair.Proofs.Desk.InOrder

/-! # Fixes and the versions of a document

Each load begins another version of the document, and the ids of its formulas start again from the
first one, so that nothing about a fix tells which version it was proposed for. A course of a desk
therefore keeps account of the proposals that are made on the way, each with the version that it was
meant for. What a typesetter or a provider does while an operation waits for it is part of the course.
-/

namespace FormulaRepair

/-- A fix, and the epoch of the document that it was proposed for. -/
structure Proposal where
  version : Int
  fix : Fix

namespace Desk

variable {Outside : Type}

/-- What can become of a desk while no proposals are made but the given ones. A proposal by hand is
meant for the version on the desk, and a repair for the version that it is given, or else for the one
on the desk when it begins. -/
inductive Course (made : Proposal → Prop) : Desk Outside → Desk Outside → Prop
  | idle {before after : Desk Outside} : after.document = before.document →
      after.registry = before.registry → Course made before after
  | load (desk : Desk Outside) (path : Option Text) (content : Text) :
      Course made desk (desk.load path content)
  | setFormulas (desk : Desk Outside) (formulas : List Formula) :
      Course made desk (desk.setFormulas formulas)
  | decide (desk : Desk Outside) (decision : Registry.Decision) :
      Course made desk { desk with registry := decision.apply desk.registry }
  | applyAccepted (desk : Desk Outside) : Course made desk desk.applyAccepted
  | analyze {renderer : Renderer (Desk Outside)} (desk : Desk Outside) :
      (∀ sample desk, Course made desk (renderer sample desk).2) →
      Course made desk (Desk.analyze renderer desk).2
  | proposeManual {renderer : Renderer (Desk Outside)} (desk : Desk Outside)
      (id replacement : Text) :
      (∀ sample desk, Course made desk (renderer sample desk).2) →
      (∀ fix, (Desk.proposeManual renderer id replacement desk).1 = .ok fix →
        made ⟨desk.document.epoch, fix⟩) →
      Course made desk (Desk.proposeManual renderer id replacement desk).2
  | repair {problem : Type} {repairer : Repairer Outside problem} (desk : Desk Outside)
      (formula : Formula) (epoch : Option Int) :
      (∀ sample desk, Course made desk (repairer.renderer sample desk).2) →
      (∀ request desk, Course made desk (repairer.provider.repair request desk).2) →
      (∀ fix, (repairer.repair formula epoch desk).1 = .ok (some fix) →
        made ⟨epoch.getD desk.document.epoch, fix⟩) →
      Course made desk (repairer.repair formula epoch desk).2
  | trans {first second third : Desk Outside} :
      Course made first second → Course made second third → Course made first third

/-- The registry is one for the formulas of the document, and each of its fixes was proposed for the
version on the desk. -/
structure Versioned (made : Proposal → Prop) (desk : Desk Outside) : Prop where
  formulas : desk.registry.formulas = desk.document.formulas
  proposed : ∀ fix ∈ desk.registry.fixes, ∃ proposal, made proposal ∧
    proposal.version = desk.document.epoch ∧ fix = { proposal.fix with status := fix.status }

/-- In addition, the version is the same as long as the registry is. -/
structure Onward (before after : Desk Outside) : Prop extends Later before after where
  epoch_eq : before.registry.edition = after.registry.edition →
    after.document.epoch = before.document.epoch

theorem Onward.trans {first second third : Desk Outside} (earlier : Onward first second)
    (later : Onward second third) : Onward first third where
  toLater := earlier.toLater.trans later.toLater
  epoch_eq same := by
    have least := earlier.edition_le
    have most := later.edition_le
    rw [later.epoch_eq (by omega), earlier.epoch_eq (by omega)]

/-- Fixes stay with the version that they were proposed for. -/
def Carries (made : Proposal → Prop) (before after : Desk Outside) : Prop :=
  before.Versioned made → after.Versioned made ∧ Onward before after

variable {made : Proposal → Prop}

instance : IsPreorder (Desk Outside) (Carries made) where
  refl desk versioned := ⟨versioned, .refl desk, fun _ => rfl⟩
  trans first second third earlier later versioned := by
    obtain ⟨middle, start⟩ := earlier versioned
    obtain ⟨last, finish⟩ := later middle
    exact ⟨last, start.trans finish⟩

theorem carries_of_same {before after : Desk Outside} (document : after.document = before.document)
    (registry : after.registry = before.registry) : Carries made before after := by
  intro versioned
  refine ⟨⟨by rw [registry, document, versioned.formulas], ?_⟩, ⟨?_, ?_, ?_, ?_⟩, ?_⟩
  · rw [registry, document]
    exact versioned.proposed
  · rw [document]
  · rw [document]
    exact fun _ => rfl
  · rw [registry]
  · rw [registry]
    exact fun _ => rfl
  · rw [document]
    exact fun _ => rfl

/-- A registry that has just been opened for the formulas of the document holds no fixes. -/
theorem carries_of_opened {before after : Desk Outside} (later : Later before after)
    (edition : before.registry.edition ≠ after.registry.edition)
    (formulas : after.registry.formulas = after.document.formulas)
    (empty : after.registry.fixes = []) : Carries made before after := by
  intro _
  refine ⟨⟨formulas, fun fix member => ?_⟩, later, fun same => absurd same edition⟩
  rw [empty] at member
  cases member

private theorem carries_load (desk : Desk Outside) (path : Option Text) (content : Text) :
    Carries made desk (desk.load path content) :=
  carries_of_opened (later_load desk path content) (Nat.ne_of_lt (Nat.lt_succ_self _)) rfl rfl

private theorem carries_setFormulas (desk : Desk Outside) (formulas : List Formula) :
    Carries made desk (desk.setFormulas formulas) :=
  carries_of_opened (later_setFormulas desk formulas) (Nat.ne_of_lt (Nat.lt_succ_self _)) rfl rfl

/-- A change of the fixes that brings none but proposed ones. -/
theorem carries_registry {desk : Desk Outside} {registry : Registry}
    (edition : registry.edition = desk.registry.edition)
    (formulas : registry.formulas = desk.registry.formulas)
    (fixes : ∀ fix ∈ registry.fixes,
      (∃ kept ∈ desk.registry.fixes, fix = { kept with status := fix.status }) ∨
        made ⟨desk.document.epoch, fix⟩) :
    Carries made desk { desk with registry := registry } := by
  intro versioned
  refine ⟨⟨formulas.trans versioned.formulas, fun fix member => ?_⟩,
    later_of_registry desk edition formulas, fun _ => rfl⟩
  rcases fixes fix member with ⟨kept, here, same⟩ | noted
  · obtain ⟨proposal, noted, version, proposed⟩ := versioned.proposed kept here
    refine ⟨proposal, noted, version, ?_⟩
    rw [same, proposed]
  · exact ⟨_, noted, rfl, rfl⟩

private theorem carries_decision (desk : Desk Outside) (decision : Registry.Decision) :
    Carries made desk { desk with registry := decision.apply desk.registry } := by
  refine carries_registry (decision.apply_edition _) (decision.apply_formulas _) fun fix member => ?_
  obtain ⟨status, chosen, same⟩ := decision.apply_eq_decide
  rw [same] at member
  obtain ⟨kept, here, reached, rfl⟩ := Registry.mem_decide member
  exact .inl ⟨kept, here, rfl⟩

/-- A proposal goes to the registry in which its formula was found, or nowhere. -/
theorem carries_propose {renderer : Renderer (Desk Outside)}
    (renders : ∀ sample, Within (Carries made) (renderer sample)) {desk proposed : Desk Outside}
    {id replacement provenance : Text} {result : Except UnknownFormula Fix}
    (proposes : renderer.propose id replacement provenance desk = (result, proposed))
    (noted : ∀ fix, result = .ok fix → made ⟨desk.document.epoch, fix⟩) :
    Carries made desk proposed := by
  cases known : desk.registry.formula? id with
  | none =>
    rw [Renderer.propose_of_unknown renderer replacement provenance known] at proposes
    cases proposes
    exact Std.Refl.refl desk
  | some formula =>
    rw [Renderer.propose_of_known renderer replacement provenance known] at proposes
    have validates := within_validate (fun _ _ => carries_of_same rfl rfl) renders
      ⟨replacement, formula.delimiter.isDisplay⟩ desk
    generalize renderer.validate ⟨replacement, formula.delimiter.isDisplay⟩ desk = answer at *
    cases proposes
    intro versioned
    obtain ⟨validated, onward⟩ := validates versioned
    have stores : Carries made answer.2 (Holds.replace
        (if answer.2.registry.edition = desk.registry.edition then
          answer.2.registry.store (Fix.propose formula id replacement answer.1 provenance)
        else answer.2.registry) answer.2) := by
      split
      -- No other registry has been opened since, so the version is the one of the proposal.
      · next same =>
        refine carries_registry (Registry.store_edition _ _) (Registry.store_formulas _ _)
          fun fix member => ?_
        rcases Registry.mem_store member with rfl | old
        · rw [onward.epoch_eq same.symm]
          exact .inr (noted _ rfl)
        · exact .inl ⟨fix, old, rfl⟩
      · exact carries_of_same rfl rfl
    obtain ⟨stored, done⟩ := stores validated
    exact ⟨stored, onward.trans done⟩

/-- A repair proposes its fix for the version that it was started for. -/
theorem carries_repair {problem : Type} {repairer : Repairer Outside problem}
    (renders : ∀ sample, Within (Carries made) (repairer.renderer sample))
    (provides : ∀ request, Within (Carries made) (repairer.provider.repair request))
    {desk : Desk Outside} {formula : Formula} {epoch : Option Int}
    (noted : ∀ fix, (repairer.repair formula epoch desk).1 = .ok (some fix) →
      made ⟨epoch.getD desk.document.epoch, fix⟩) :
    Carries made desk (repairer.repair formula epoch desk).2 := by
  have marks (desk : Desk Outside) (inFlight : List Text) :
      Carries made desk { desk with inFlight := inFlight } := carries_of_same rfl rfl
  have asked : Carries made desk (repairer.answer formula desk).2 :=
    IsTrans.trans _ _ _ (marks desk _) (provides _ _)
  have ends := repairer.ends_repair formula epoch desk
  generalize epoch.getD desk.document.epoch = version at noted ends
  generalize repairer.repair formula epoch desk = ended at noted ends
  obtain ⟨result, after⟩ := ended
  cases ends with
  | outdated => exact Std.Refl.refl _
  | running => exact Std.Refl.refl _
  | failed => exact IsTrans.trans _ _ _ asked (marks _ _)
  | overtaken => exact IsTrans.trans _ _ _ asked (marks _ _)
  | @proposed reply fix proposed _ _ _ still proposes =>
    obtain ⟨known, -, version, -⟩ := exists_of_isFresh still
    refine IsTrans.trans _ _ _ asked (IsTrans.trans _ _ _ ?_ (marks _ _))
    refine carries_propose renders proposes fun other same => ?_
    cases same
    rw [← version]
    exact noted fix rfl

/-- Along a course, by induction on it and on the courses inside its operations. -/
theorem Course.carries {before after : Desk Outside} (course : Course made before after) :
    Carries made before after := by
  induction course with
  | idle document registry => exact carries_of_same document registry
  | load desk path content => exact carries_load desk path content
  | setFormulas desk formulas => exact carries_setFormulas desk formulas
  | decide desk decision => exact carries_decision desk decision
  | applyAccepted desk =>
    intro versioned
    exact ⟨⟨versioned.formulas, versioned.proposed⟩,
      ⟨le_refl _, fun _ => rfl, le_refl _, fun _ => rfl⟩, fun _ => rfl⟩
  | analyze desk _ renders =>
    exact within_analyze (fun _ _ => carries_of_same rfl rfl) (fun _ _ => carries_of_same rfl rfl)
      carries_setFormulas renders desk
  | proposeManual desk id replacement _ noted renders => exact carries_propose renders rfl noted
  | repair desk formula epoch _ _ noted renders provides =>
    exact carries_repair renders provides noted
  | trans _ _ first second => exact IsTrans.trans _ _ _ first second

instance : IsPreorder (Desk Outside) (Course made) where
  refl _ := .idle rfl rfl
  trans _ _ _ := .trans

/-- A batch is a course of repairs for the epoch in which it began. -/
theorem course_repairAll {problem : Type} {repairer : Repairer Outside problem}
    (renders : ∀ sample desk, Course made desk (repairer.renderer sample desk).2)
    (provides : ∀ request desk, Course made desk (repairer.provider.repair request desk).2)
    (formulas : List Formula) (desk : Desk Outside)
    (noted : ∀ formula ∈ formulas, ∀ present fix,
      (repairer.repair formula (some (desk.document.epoch : Int)) present).1 = .ok (some fix) →
        made ⟨desk.document.epoch, fix⟩) :
    Course made desk (repairer.repairAll formulas desk).2 := by
  change Course made desk (repairer.repairFrom desk.document.epoch formulas desk).2
  generalize desk.document.epoch = epoch at noted ⊢
  induction formulas generalizing desk with
  | nil => exact .idle rfl rfl
  | cons formula formulas ih =>
    obtain ⟨here, later⟩ := List.forall_mem_cons.mp noted
    rw [Repairer.repairFrom_cons]
    dsimp only
    split
    · exact .trans (.repair desk formula _ renders provides (here desk)) (ih _ later)
    · exact ih desk later

/-- A proposal that succeeds is validated, and then changes the registry if it is still the one in
which the formula was found, and nothing else. -/
theorem exists_of_propose {renderer : Renderer (Desk Outside)} {desk proposed : Desk Outside}
    {id replacement provenance : Text} {fix : Fix}
    (proposes : renderer.propose id replacement provenance desk = (.ok fix, proposed)) :
    ∃ formula verdict validated,
      renderer.validate ⟨replacement, formula.delimiter.isDisplay⟩ desk = (verdict, validated) ∧
      fix = Fix.propose formula id replacement verdict provenance ∧
      proposed = { validated with
        registry := if validated.registry.edition = desk.registry.edition then
          validated.registry.store fix else validated.registry } := by
  cases known : desk.registry.formula? id with
  | none =>
    rw [Renderer.propose_of_unknown renderer replacement provenance known] at proposes
    cases proposes
  | some formula =>
    rw [Renderer.propose_of_known renderer replacement provenance known] at proposes
    cases proposes
    exact ⟨formula, _, _, rfl, rfl, rfl⟩

theorem course_validate {renderer : Renderer (Desk Outside)}
    (renders : ∀ sample, Within (Course made) (renderer sample)) {sample : Sample}
    {desk validated : Desk Outside} {verdict : Verdict}
    (validates : renderer.validate sample desk = (verdict, validated)) :
    Course made desk validated := by
  have course := within_validate (fun _ _ => .idle rfl rfl) renders sample desk
  rwa [validates] at course

/-- A proposal is validated, and its fix goes to the registry in which the formula was found, unless
another one has been opened by then. -/
theorem stored_of_propose {renderer : Renderer (Desk Outside)}
    (renders : ∀ sample, Within (Course made) (renderer sample)) {desk proposed : Desk Outside}
    {id replacement provenance : Text} {fix : Fix}
    (proposes : renderer.propose id replacement provenance desk = (.ok fix, proposed)) :
    ∃ validated : Desk Outside, Course made desk validated ∧
      proposed.document = validated.document ∧
      proposed.registry =
        if validated.registry.edition = desk.registry.edition then validated.registry.store fix
        else validated.registry := by
  obtain ⟨formula, verdict, validated, validates, -, rfl⟩ := exists_of_propose proposes
  exact ⟨validated, course_validate renders validates, rfl, rfl⟩

/-- A fresh formula is one of the document, as far as its id, its span and its text go. -/
theorem Versioned.exists_of_isFresh {desk : Desk Outside} (versioned : desk.Versioned made)
    {formula : Formula} {version : Int} (fresh : desk.isFresh formula version = true) :
    desk.document.epoch = version ∧
      ∃ known ∈ desk.document.formulas, known.id = formula.id ∧
        known.startOffset = formula.startOffset ∧ known.endOffset = formula.endOffset ∧
        known.rawWithDelimiters = formula.rawWithDelimiters := by
  obtain ⟨known, found, same, start, stop, text⟩ := Desk.exists_of_isFresh fresh
  obtain ⟨listed, named⟩ := Registry.formula?_eq_some found
  rw [versioned.formulas] at listed
  exact ⟨same.symm, known, listed, named, start, stop, text⟩

/-- Nothing has been loaded onto the desk. -/
structure Blank (desk : Desk Outside) : Prop where
  document : desk.document = {}
  registry : desk.registry = {}

theorem Blank.versioned {desk : Desk Outside} (blank : desk.Blank) : desk.Versioned made := by
  refine ⟨?_, fun fix member => ?_⟩
  · rw [blank.registry, blank.document]
  · rw [blank.registry] at member
    cases member

/-- No repair crosses documents. A repair that ends without a fix leaves the desk as it was, or as the
provider left it; it never fails for a formula that the registry does not know. It ends with a fix only
if, when the provider answered, the document was that of the version the repair was meant for, with a
formula of the same id, span and text; and the fix is stored only in the registry that was open then.
Whatever happens afterwards, every fix in the registry was proposed for the version on the desk. -/
theorem repair_keeps_version {problem : Type} {start desk : Desk Outside} (blank : start.Blank)
    (reached : Course made start desk) {repairer : Repairer Outside problem}
    (renders : ∀ sample desk, Course made desk (repairer.renderer sample desk).2)
    (provides : ∀ request desk, Course made desk (repairer.provider.repair request desk).2)
    (formula : Formula) (epoch : Option Int)
    (noted : ∀ fix, (repairer.repair formula epoch desk).1 = .ok (some fix) →
      made ⟨epoch.getD desk.document.epoch, fix⟩) :
    let version := epoch.getD desk.document.epoch
    let answered := (repairer.answer formula desk).2
    let ended := repairer.repair formula epoch desk
    (∀ unknown, ended.1 ≠ .error (.unknown unknown)) ∧
    ((∀ fix, ended.1 ≠ .ok (some fix)) →
      ended.2 = desk ∨ ended.2 = answered.unmark formula.id) ∧
    (∀ fix, ended.1 = .ok (some fix) →
      answered.document.epoch = version ∧
      (∃ known ∈ answered.document.formulas, known.id = formula.id ∧
        known.startOffset = formula.startOffset ∧ known.endOffset = formula.endOffset ∧
        known.rawWithDelimiters = formula.rawWithDelimiters) ∧
      ∃ validated : Desk Outside, Course made answered validated ∧
        ended.2.document = validated.document ∧
        ended.2.registry =
          if validated.registry.edition = answered.registry.edition then
            validated.registry.store fix
          else validated.registry) ∧
    ∀ later, Course made ended.2 later → ∀ fix ∈ later.registry.fixes,
      ∃ proposal, made proposal ∧ proposal.version = later.document.epoch ∧
        fix = { proposal.fix with status := fix.status } := by
  intro version answered ended
  have versioned := (reached.carries blank.versioned).1
  have marked : Course made desk (desk.mark formula.id) := .idle rfl rfl
  have asked : Course made desk answered := marked.trans (provides _ _)
  have ends : repairer.Ends formula version desk ended.1 ended.2 :=
    repairer.ends_repair formula epoch desk
  refine ⟨ends.ne_unknown, ends.desk_eq, fun fix fixed => ?_, fun later onward => ?_⟩
  · rw [fixed] at ends
    obtain ⟨still, reply, proposed, -, proposes, left⟩ := ends.exists_of_fixed
    obtain ⟨same, known⟩ := (asked.carries versioned).1.exists_of_isFresh still
    obtain ⟨validated, validates, document, registry⟩ := stored_of_propose renders proposes
    rw [left]
    exact ⟨same, known, validated, validates, document, registry⟩
  · have repairs : Course made desk ended.2 := .repair desk formula epoch renders provides noted
    exact ((repairs.trans onward).carries versioned).1.proposed

/-- A formula that two documents have in the same place. -/
def lookalike : Formula :=
  { id := Scan.formulaId 0, raw := "x".toList, rawWithDelimiters := "$x$".toList,
    delimiter := .inlineDollar, startOffset := 2, endOffset := 5, lineNumber := 1 }

/-- A provider that replies at once, and a renderer that replaces the document while it is asked about
the reply. -/
def usurping : Repairer Unit Unit where
  renderer sample := fun desk =>
    if sample.latex = "y".toList then
      (.ok [], (desk.load none "b $x$".toList).setFormulas [lookalike])
    else (.ok [], desk)
  provider := { name := "scribe".toList, repair := fun _ => pure (.ok ⟨"y".toList, []⟩) }
  contextSize := 0

theorem repair_keeps_version_lookalike :
    let blank : Desk Unit := { cache := default, pool := default, pooled := false, outside := () }
    let desk := (blank.load none "a $x$".toList).setFormulas [lookalike]
    let fix := Fix.propose lookalike lookalike.id "y".toList ⟨true, none, some []⟩ "scribe:".toList
    let ended := usurping.repair lookalike none desk
    Scan.formulas "a $x$".toList = [lookalike] ∧ Scan.formulas "b $x$".toList = [lookalike] ∧
      ended.1 = .ok (some fix) ∧ ended.2.document.epoch = 2 ∧ ended.2.registry.fixes = [] ∧
      ∀ later, Course (fun proposal => proposal.version = 1) ended.2 later →
        later.document.epoch ≠ 1 → later.registry.fixes = [] := by
  intro blank desk fix ended
  have reached : Course (fun proposal => proposal.version = 1) blank desk :=
    .trans (.load blank none _) (.setFormulas _ _)
  have renders (sample : Sample) (desk : Desk Unit) :
      Course (fun proposal => proposal.version = 1) desk (usurping.renderer sample desk).2 := by
    unfold usurping
    dsimp only
    split
    · exact .trans (.load desk none _) (.setFormulas _ _)
    · exact .idle rfl rfl
  have kept := repair_keeps_version ⟨rfl, rfl⟩ reached renders (fun _ _ => .idle rfl rfl) lookalike
    none (fun _ _ => rfl)
  refine ⟨by decide +kernel, by decide +kernel, rfl, rfl, rfl, fun later course other => ?_⟩
  refine List.eq_nil_iff_forall_not_mem.mpr fun fix member => ?_
  obtain ⟨proposal, first, version, -⟩ := kept.2.2.2 later course fix member
  exact other (Int.ofNat_inj.mp (version.symm.trans first))

end Desk

end FormulaRepair
