import FormulaRepair.Proofs.Desk.InOrder

/-! # Runs on a desk

A run is made of the operations that a desk offers, in any order. Every operation gets a typesetter
and a provider of its own, which may answer whatever they like and may run further operations on the
same desk before they answer. All runs that start on an empty desk end on desks in order, and there
the accepted fixes can be written into the document without harm to any other part of it.
-/

namespace FormulaRepair

variable {World : Type}

namespace Desk

/-- The operations that a run is made of. -/
inductive Action
  | load (path : Option Text) (content : Text)
  | analyze
  | proposeManual (id replacement : Text)
  | decide (decision : Registry.Decision)
  | repair (formula : Formula) (epoch : Option Int)
  | repairAll (formulas : List Formula)
  | applyAccepted

/-- Carry out an operation. Its answer does not matter here. -/
def Action.perform {problem : Type} (repairer : Repairer (Diary World) problem) :
    Action → StateM (Desk (Diary World)) Unit
  | load path content => modify fun desk => desk.loadNoted path content
  | analyze => discard (Desk.analyze repairer.renderer)
  | proposeManual id replacement => discard (Desk.proposeManual repairer.renderer id replacement)
  | decide decision =>
      modify fun desk => { desk with registry := decision.apply desk.registry }
  | repair formula epoch => discard (repairer.repair formula epoch)
  | repairAll formulas => discard (repairer.repairAll formulas)
  | applyAccepted => modify Desk.applyAccepted

/-- The same renderer and provider, with a note of the page that lies open when they are asked. -/
def watched {problem : Type} (repairer : Repairer (Diary World) problem) :
    Repairer (Diary World) problem where
  renderer sample := fun desk => repairer.renderer sample desk.notePage
  provider := { repairer.provider with
    repair := fun request desk => repairer.provider.repair request desk.notePage }
  contextSize := repairer.contextSize

/-- What can become of a desk. Between operations anything may happen to the cache, the pool, the
marks and the world. Every operation is carried out with a renderer and a provider of its own, which
do no more than run operations themselves before they answer; the page that lies open at its end is
noted. Where they are not asked they may be taken to leave the desk alone, so that one that is asked
again, inside an operation that it runs itself, is covered as well. -/
inductive Run : Desk (Diary World) → Desk (Diary World) → Prop
  | idle {before after : Desk (Diary World)} : SamePage before after → Run before after
  | act {problem : Type} (action : Action) (repairer : Repairer (Diary World) problem)
      (desk : Desk (Diary World)) :
      (∀ sample desk, Run desk (repairer.renderer sample desk).2) →
      (∀ request desk, Run desk (repairer.provider.repair request desk).2) →
      Run desk (action.perform (watched repairer) desk).2.notePage
  | trans {first second third : Desk (Diary World)} :
      Run first second → Run second third → Run first third

/-- Every operation keeps a desk in order when whatever it waits for does. -/
theorem Action.within_perform {problem : Type} {repairer : Repairer (Diary World) problem}
    (renders : ∀ sample, Within Keeps (repairer.renderer sample))
    (provides : ∀ request, Within Keeps (repairer.provider.repair request)) (action : Action) :
    Within Keeps (action.perform repairer) := by
  have repairs := Repairer.within_repair provides (keeps_propose renders)
    fun _ _ => SamePage.keeps ⟨rfl, rfl⟩
  cases action with
  | load path content => exact within_modify fun desk => keeps_loadNoted desk path content
  | analyze => exact keeps_analyze renders
  | proposeManual id replacement => exact keeps_propose renders id replacement Fix.manual
  | decide decision => exact within_modify fun desk => keeps_decision desk decision
  | repair formula epoch => exact repairs formula epoch
  | repairAll formulas => exact Repairer.within_repairAll repairs formulas
  | applyAccepted => exact within_modify keeps_applyAccepted

/-- A run keeps a desk in order, by induction on the run and on the runs inside its operations. -/
theorem Run.keeps {before after : Desk (Diary World)} (run : Run before after) :
    Keeps before after := by
  induction run with
  | idle same => exact same.keeps
  | act action repairer desk _ _ renders provides =>
    have performed : Keeps desk (action.perform (watched repairer) desk).2 := by
      refine action.within_perform (fun sample desk => ?_) (fun request desk => ?_) desk
      · exact IsTrans.trans _ _ _ (keeps_notePage desk) (renders sample desk.notePage)
      · exact IsTrans.trans _ _ _ (keeps_notePage desk) (provides request desk.notePage)
    exact IsTrans.trans _ _ _ performed (keeps_notePage _)
  | trans _ _ first second => exact IsTrans.trans _ _ _ first second

/-- Operations carried out one after the other make a run. -/
theorem run_foldl {problem : Type} {repairer : Repairer (Diary World) problem}
    (renders : ∀ sample desk, Run desk (repairer.renderer sample desk).2)
    (provides : ∀ request desk, Run desk (repairer.provider.repair request desk).2)
    (actions : List Action) (desk : Desk (Diary World)) :
    Run desk (actions.foldl (fun desk action =>
      (action.perform (watched repairer) desk).2.notePage) desk) := by
  induction actions generalizing desk with
  | nil => exact .idle ⟨rfl, rfl⟩
  | cons action actions ih => exact .trans (.act action repairer desk renders provides) (ih _)

/-- Nothing has been loaded onto the desk. -/
structure Fresh (desk : Desk (Diary World)) : Prop where
  document : desk.document = {}
  registry : desk.registry = {}
  loads : desk.outside.loads = []
  seen : desk.outside.seen = []

theorem Fresh.inOrder {desk : Desk (Diary World)} (fresh : desk.Fresh) : desk.InOrder := by
  obtain ⟨document, registry, loads, seen⟩ := fresh
  rw [InOrder, seen]
  refine List.forall_mem_singleton.mpr ⟨?_, .inl ?_, ?_, ?_⟩ <;>
    simp only [page, document, registry, loads]
  · rfl
  · intro fix member
    cases member

end Desk

namespace Page

/-- What writing the accepted fixes gives. -/
def composed (page : Page) : Text :=
  compose page.document.loaded page.document.formulas page.registry.fix?

/-- The replacement for a formula with an accepted fix: the new content between the delimiters that
the formula has. -/
def accepted? (page : Page) (formula : Formula) : Option Replacement :=
  match page.registry.fix? formula.id with
  | some fix =>
      if fix.status = .accepted then
        some ⟨formula.startOffset, formula.endOffset, formula.delimiter.wrap fix.fixedRaw⟩
      else none
  | none => none

/-- On a page in order, a formula gives way to the new content between its own delimiters. -/
theorem InOrder.ofFormula?_eq_accepted? {page : Page} (inOrder : page.InOrder)
    {formula : Formula} (member : formula ∈ page.document.formulas) :
    Replacement.ofFormula? page.registry.fix? formula = page.accepted? formula := by
  rw [Replacement.ofFormula?, accepted?]
  cases kept : page.registry.fix? formula.id with
  | none => rfl
  | some fix =>
    have suits : fix.Suits formula := by
      rcases inOrder.formulas with none | found
      · rw [none] at member
        cases member
      · exact found.related inOrder.registry inOrder.fixes (fun _ _ suits => suits.formulaId)
          member kept
    simp only [suits.fixedWithDelimiters]

private theorem InOrder.composed_eq_rebuild {page : Page} (inOrder : page.InOrder) :
    page.composed =
      Replacement.rebuild page.document.loaded 0
        (page.document.formulas.filterMap page.accepted?) := by
  rw [← List.filterMap_congr fun _ member => inOrder.ofFormula?_eq_accepted? member, composed]
  rcases inOrder.formulas with none | found
  · rw [none]
    exact Replacement.applyAll_eq_rebuild (List.Perm.refl []) (by simp) .nil
  · exact compose_eq_rebuild found page.registry.fix?

end Page

/-- Wherever a run from an empty desk leads, and whatever page lies open on the way, the document is
the latest load, its formulas are those found in it with verdicts filled in, or none, and each fix in
the registry was made for one of them. Writing the accepted fixes therefore copies the text as it was
loaded, with the span of each formula that has an accepted fix replaced by the new content between the
delimiters of the formula, and changes nothing else on the desk. -/
theorem Desk.run_from_fresh {start desk : Desk (Diary World)} (fresh : start.Fresh)
    (run : Run start desk) :
    (∀ page ∈ desk.page :: desk.outside.seen,
      page.document.loaded = page.loads.headD [] ∧
      (page.document.formulas = [] ∨ FoundIn page.document.loaded page.document.formulas) ∧
      (∀ fix ∈ page.registry.fixes, ∃ formula ∈ page.document.formulas, fix.Suits formula) ∧
      page.composed =
        Replacement.rebuild page.document.loaded 0
          (page.document.formulas.filterMap page.accepted?)) ∧
    desk.applyAccepted =
      { desk with document := { desk.document with current := desk.page.composed } } := by
  refine ⟨fun page noted => ?_, rfl⟩
  obtain ⟨inOrder, -⟩ := run.keeps fresh.inOrder
  have page_inOrder := inOrder page noted
  refine ⟨page_inOrder.loaded, page_inOrder.formulas, ?_, page_inOrder.composed_eq_rebuild⟩
  rw [← page_inOrder.registry]
  exact page_inOrder.fixes

namespace Desk

/-- A renderer that accepts every formula, and a provider that never answers. -/
def quiet : Repairer (Diary Unit) Unit where
  renderer _ := pure (.ok [])
  provider := { name := [], repair := fun _ => pure (.error ()) }
  contextSize := 0

/-- A renderer that replaces the first document as soon as it is asked. -/
def interrupting : Repairer (Diary Unit) Unit where
  renderer _ := fun desk =>
    if desk.document.epoch = 1 then
      (.ok [], ((Action.load none "b $y$".toList).perform (watched quiet) desk).2.notePage)
    else (.ok [], desk)
  provider := quiet.provider
  contextSize := 0

/-- A desk after the analysis of one document was interrupted and that of the next one was not. -/
def interrupted : Desk (Diary Unit) :=
  [ Action.load none "a $x$".toList, .analyze, .analyze
  , .proposeManual (Scan.formulaId 0) "z".toList, .decide (.accept (Scan.formulaId 0)) ].foldl
    (fun desk action => (action.perform (watched interrupting) desk).2.notePage)
    { cache := default, pool := default, pooled := false, outside := { world := () } }

theorem run_from_fresh_interrupted :
    interrupted.page.composed =
        Replacement.rebuild interrupted.page.document.loaded 0
          (interrupted.page.document.formulas.filterMap interrupted.page.accepted?) ∧
      interrupted.page.composed = "b $z$".toList := by
  have quietRun (desk : Desk (Diary Unit)) : Run desk desk := .idle ⟨rfl, rfl⟩
  have renders (sample : Sample) (desk : Desk (Diary Unit)) :
      Run desk (interrupting.renderer sample desk).2 := by
    unfold interrupting
    dsimp only
    split
    · exact .act _ quiet desk (fun _ => quietRun) (fun _ => quietRun)
    · exact quietRun desk
  have run : Run _ interrupted := run_foldl renders (fun _ => quietRun) _ _
  obtain ⟨pages, -⟩ := run_from_fresh ⟨rfl, rfl, rfl, rfl⟩ run
  exact ⟨(pages _ (List.mem_cons_self ..)).2.2.2, by decide +kernel⟩

end Desk

end FormulaRepair
