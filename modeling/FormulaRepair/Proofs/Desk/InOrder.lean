import FormulaRepair.Proofs.Compose
import FormulaRepair.Proofs.Desk.Operations
import FormulaRepair.Proofs.Registry

/-! # Desks in order

On a desk in order, the document holds what was loaded last, its formulas are those found in it, and
the registry holds fixes for these formulas and nothing else. An operation that waits for a typesetter
or a provider may find another document, other formulas or another registry afterwards. It keeps its
result only if the epoch, or the edition of the registry, is still the same; what that says about the
time in between is the relation `Later`. A diary records the loads and the pages that lay open.
-/

namespace FormulaRepair

/-- What concerns the document on a desk: it, its registry, and the texts loaded so far, the last one
first. -/
structure Page where
  document : Document
  registry : Registry
  loads : List Text

/-- The world around a desk, with a record of the texts loaded and of the pages that lay open on the
way. The record is kept for the sake of reasoning; no operation reads it. -/
structure Diary (World : Type) where
  world : World
  loads : List Text := []
  seen : List Page := []

/-- The document is the latest load, its formulas have not been looked for or are those found in it,
and each fix in the registry was made for one of them. -/
structure Page.InOrder (page : Page) : Prop where
  loaded : page.document.loaded = page.loads.headD []
  formulas : page.document.formulas = [] ∨ FoundIn page.document.loaded page.document.formulas
  registry : page.registry.formulas = page.document.formulas
  fixes : page.registry.Relates fun formula fix => fix.Suits formula

namespace Desk

section Later

variable {Outside : Type}

/-- The epoch and the edition of the registry only grow. While the epoch stays the same so does the
text of the document, and while the edition stays the same so do the formulas of the registry. -/
structure Later (before after : Desk Outside) : Prop where
  epoch_le : before.document.epoch ≤ after.document.epoch
  loaded_eq : before.document.epoch = after.document.epoch →
    after.document.loaded = before.document.loaded
  edition_le : before.registry.edition ≤ after.registry.edition
  formulas_eq : before.registry.edition = after.registry.edition →
    after.registry.formulas = before.registry.formulas

theorem Later.refl (desk : Desk Outside) : Later desk desk :=
  ⟨le_refl _, fun _ => rfl, le_refl _, fun _ => rfl⟩

theorem Later.trans {first second third : Desk Outside} (earlier : Later first second)
    (later : Later second third) : Later first third where
  epoch_le := earlier.epoch_le.trans later.epoch_le
  loaded_eq same := by
    have least := earlier.epoch_le
    have most := later.epoch_le
    rw [later.loaded_eq (by omega), earlier.loaded_eq (by omega)]
  edition_le := earlier.edition_le.trans later.edition_le
  formulas_eq same := by
    have least := earlier.edition_le
    have most := later.edition_le
    rw [later.formulas_eq (by omega), earlier.formulas_eq (by omega)]

theorem later_load (desk : Desk Outside) (path : Option Text) (content : Text) :
    Later desk (desk.load path content) where
  epoch_le := Nat.le_succ _
  loaded_eq same := absurd same (Nat.ne_of_lt (Nat.lt_succ_self _))
  edition_le := Nat.le_succ _
  formulas_eq same := absurd same (Nat.ne_of_lt (Nat.lt_succ_self _))

theorem later_setFormulas (desk : Desk Outside) (formulas : List Formula) :
    Later desk (desk.setFormulas formulas) where
  epoch_le := le_refl _
  loaded_eq _ := rfl
  edition_le := Nat.le_succ _
  formulas_eq same := absurd same (Nat.ne_of_lt (Nat.lt_succ_self _))

/-- Fixes may come and be decided on in the same registry. -/
theorem later_of_registry (desk : Desk Outside) {registry : Registry}
    (edition : registry.edition = desk.registry.edition)
    (formulas : registry.formulas = desk.registry.formulas) :
    Later desk { desk with registry := registry } :=
  ⟨le_refl _, fun _ => rfl, edition.ge, fun _ => formulas⟩

end Later

variable {World : Type}

/-- The page that lies open on a desk. -/
def page (desk : Desk (Diary World)) : Page := ⟨desk.document, desk.registry, desk.outside.loads⟩

/-- Load a document, and note this in the diary. -/
def loadNoted (desk : Desk (Diary World)) (path : Option Text) (content : Text) :
    Desk (Diary World) :=
  { desk.load path content with
    outside := { desk.outside with loads := content :: desk.outside.loads } }

/-- Note the page that lies open in the diary. -/
def notePage (desk : Desk (Diary World)) : Desk (Diary World) :=
  { desk with outside := { desk.outside with seen := desk.page :: desk.outside.seen } }

/-- The page and all pages in the diary are in order. -/
def InOrder (desk : Desk (Diary World)) : Prop :=
  ∀ page ∈ desk.page :: desk.outside.seen, page.InOrder

/-- From a desk in order, only to a later desk in order. -/
def Keeps (before after : Desk (Diary World)) : Prop :=
  before.InOrder → after.InOrder ∧ Later before after

instance : IsPreorder (Desk (Diary World)) Keeps where
  refl desk inOrder := ⟨inOrder, .refl desk⟩
  trans first second third earlier later inOrder := by
    obtain ⟨middle, first⟩ := earlier inOrder
    obtain ⟨last, second⟩ := later middle
    exact ⟨last, first.trans second⟩

/-- A page in order may be replaced by another one in order. -/
theorem keeps_of_page {before after : Desk (Diary World)}
    (noted : after.outside.seen = before.outside.seen) (later : Later before after)
    (page : before.page.InOrder → after.page.InOrder) : Keeps before after := by
  intro inOrder
  obtain ⟨open_, seen⟩ := List.forall_mem_cons.mp inOrder
  refine ⟨List.forall_mem_cons.mpr ⟨page open_, ?_⟩, later⟩
  rw [noted]
  exact seen

/-- The same page lies open and no other one was noted. -/
structure SamePage (before after : Desk (Diary World)) : Prop where
  page : after.page = before.page
  seen : after.outside.seen = before.outside.seen

theorem SamePage.keeps {before after : Desk (Diary World)} (same : SamePage before after) :
    Keeps before after := by
  have document : after.document = before.document := congrArg Page.document same.page
  have registry : after.registry = before.registry := congrArg Page.registry same.page
  refine keeps_of_page same.seen ?_ fun inOrder => same.page ▸ inOrder
  exact ⟨by rw [document], fun _ => by rw [document], by rw [registry], fun _ => by rw [registry]⟩

theorem keeps_notePage (desk : Desk (Diary World)) : Keeps desk desk.notePage := by
  intro inOrder
  refine ⟨List.forall_mem_cons.mpr ⟨?_, inOrder⟩, ?_⟩
  · exact inOrder _ (List.mem_cons_self ..)
  · exact ⟨le_refl _, fun _ => rfl, le_refl _, fun _ => rfl⟩

theorem overlooks_cache : Overlooks Cache (@Keeps World) := fun _ _ =>
  SamePage.keeps ⟨rfl, rfl⟩

private theorem overlooks_pool : Overlooks Pool (@Keeps World) := fun _ _ =>
  SamePage.keeps ⟨rfl, rfl⟩

section Steps

variable {renderer : Renderer (Desk (Diary World))}

theorem keeps_loadNoted (desk : Desk (Diary World)) (path : Option Text) (content : Text) :
    Keeps desk (desk.loadNoted path content) := by
  obtain ⟨epoch, loaded, edition, formulas⟩ := later_load desk path content
  refine keeps_of_page rfl ⟨epoch, loaded, edition, formulas⟩ fun _ => ⟨rfl, .inl rfl, rfl, ?_⟩
  intro fix member
  cases member

/-- New formulas of the same text come with an empty registry for them. -/
theorem keeps_setFormulas {desk : Desk (Diary World)} {formulas : List Formula}
    (found : FoundIn desk.document.loaded formulas) : Keeps desk (desk.setFormulas formulas) := by
  refine keeps_of_page rfl (later_setFormulas desk formulas) fun inOrder =>
    ⟨inOrder.loaded, .inr found, rfl, ?_⟩
  intro fix member
  cases member

/-- An analysis keeps only formulas of the text that is still the document. -/
theorem keeps_analyze (renders : ∀ sample, Within Keeps (renderer sample)) :
    Within Keeps (analyze renderer) := by
  intro desk inOrder
  have checks := within_check overlooks_cache overlooks_pool renders
    (Scan.formulas desk.document.loaded) desk inOrder
  rw [analyze_eq]
  dsimp only
  split
  · exact checks
  · exact checks
  · next formulas answered =>
    split
    -- The epoch is still the one in which the text was scanned, so the document holds that text.
    · next current =>
      have found : FoundIn desk.document.loaded formulas :=
        (check_asFound answered).trans (Scan.map_asFound_formulas _)
      rw [← checks.2.loaded_eq current.symm] at found
      obtain ⟨installed, later⟩ := keeps_setFormulas found checks.1
      exact ⟨installed, checks.2.trans later⟩
    · exact checks

/-- A change of the registry that leaves it with fixes for its own formulas. -/
theorem keeps_registry {desk : Desk (Diary World)} {registry : Registry}
    (edition : registry.edition = desk.registry.edition)
    (formulas : registry.formulas = desk.registry.formulas)
    (fixes : desk.registry.Relates (fun formula fix => fix.Suits formula) →
      registry.Relates fun formula fix => fix.Suits formula) :
    Keeps desk { desk with registry := registry } := by
  refine keeps_of_page rfl (later_of_registry desk edition formulas) fun inOrder => ?_
  exact ⟨inOrder.loaded, inOrder.formulas, formulas.trans inOrder.registry, fixes inOrder.fixes⟩

theorem keeps_decision (desk : Desk (Diary World)) (decision : Registry.Decision) :
    Keeps desk { desk with registry := decision.apply desk.registry } := by
  refine keeps_registry (decision.apply_edition _) (decision.apply_formulas _) fun fixes => ?_
  exact fixes.apply (fun _ _ _ suits => ⟨suits.1, suits.2, suits.3⟩) decision

/-- A proposal is stored only in the registry in which its formula was found. -/
theorem keeps_propose (renders : ∀ sample, Within Keeps (renderer sample))
    (id replacement provenance : Text) :
    Within Keeps (renderer.propose id replacement provenance) := by
  intro desk
  cases known : desk.registry.formula? id with
  | none =>
    rw [Renderer.propose_of_unknown renderer replacement provenance known]
    exact Std.Refl.refl desk
  | some formula =>
    rw [Renderer.propose_of_known renderer replacement provenance known]
    have validates := within_validate overlooks_cache renders
      ⟨replacement, formula.delimiter.isDisplay⟩ desk
    generalize renderer.validate ⟨replacement, formula.delimiter.isDisplay⟩ desk = answer at *
    intro inOrder
    obtain ⟨validated, later⟩ := validates inOrder
    obtain ⟨listed, named⟩ := Registry.formula?_eq_some known
    have stores : Keeps answer.2 (Holds.replace
        (if answer.2.registry.edition = desk.registry.edition then
          answer.2.registry.store (Fix.propose formula id replacement answer.1 provenance)
        else answer.2.registry) answer.2) := by
      split
      -- The edition is still the one in which the formula was found, so the registry knows it.
      · next same =>
        rw [← later.formulas_eq same.symm] at listed
        exact keeps_registry (Registry.store_edition _ _) (Registry.store_formulas _ _)
          fun fixes => fixes.store listed (Fix.suits_propose named _ _ _)
      · exact SamePage.keeps ⟨rfl, rfl⟩
    obtain ⟨stored, done⟩ := stores validated
    exact ⟨stored, later.trans done⟩

theorem keeps_applyAccepted (desk : Desk (Diary World)) : Keeps desk desk.applyAccepted := by
  refine keeps_of_page rfl ⟨le_refl _, fun _ => rfl, le_refl _, fun _ => rfl⟩ fun inOrder => ?_
  exact ⟨inOrder.loaded, inOrder.formulas, inOrder.registry, inOrder.fixes⟩

end Steps

end Desk

end FormulaRepair
