import FormulaRepair.Proofs.Desk.Undisturbed

/-! # What is done to a desk while it waits

While an operation waits for a typesetter, documents may be loaded and the epoch of the pool may be
set. Each of these deeds makes all tickets of the pool old, and only the loads reach the document
and its registry.
-/

namespace FormulaRepair

variable {Outside : Type}

namespace Desk

/-- What may be done to a desk. -/
inductive Deed
  | load (path : Option Text) (content : Text)
  | setEpoch (epoch : Int)
deriving DecidableEq

/-- Do it. -/
def Deed.perform : Deed → Desk Outside → Desk Outside
  | load path content, desk => desk.load path content
  | setEpoch epoch, desk => { desk with pool := desk.pool.setEpoch epoch }

/-- Do one after the other. -/
def performAll (desk : Desk Outside) (deeds : List Deed) : Desk Outside :=
  deeds.foldl (fun desk deed => deed.perform desk) desk

/-- Load one document after the other. -/
def loadAll (desk : Desk Outside) (loads : List (Option Text × Text)) : Desk Outside :=
  loads.foldl (fun desk load => desk.load load.1 load.2) desk

/-- The documents that are loaded by deeds. -/
def Deed.loads (deeds : List Deed) : List (Option Text × Text) :=
  deeds.filterMap fun
    | load path content => some (path, content)
    | setEpoch _ => none

/-- The document, its registry and the pool are the same. -/
structure Agrees (desk other : Desk Outside) : Prop where
  document : other.document = desk.document
  registry : other.registry = desk.registry
  pool : other.pool = desk.pool

theorem Agrees.trans {first second third : Desk Outside} (earlier : Agrees first second)
    (later : Agrees second third) : Agrees first third :=
  ⟨later.document.trans earlier.document, later.registry.trans earlier.registry,
    later.pool.trans earlier.pool⟩

/-- A deed looks at nothing else. -/
theorem Agrees.perform {desk other : Desk Outside} (agrees : Agrees desk other) (deed : Deed) :
    Agrees (deed.perform desk) (deed.perform other) := by
  obtain ⟨document, registry, pool⟩ := agrees
  cases deed with
  | load path content =>
    constructor <;> simp only [Deed.perform, load, openRegistry, document, registry, pool]
  | setEpoch epoch => constructor <;> simp only [Deed.perform, document, registry, pool]

theorem Agrees.performAll {desk other : Desk Outside} (agrees : Agrees desk other)
    (deeds : List Deed) : Agrees (desk.performAll deeds) (other.performAll deeds) := by
  induction deeds generalizing desk other with
  | nil => exact agrees
  | cons deed deeds ih => exact ih (agrees.perform deed)

/-- The deeds are all that has become of the document, its registry and the pool. -/
def Interlude (deeds : List Deed) (before after : Desk Outside) : Prop :=
  Agrees (before.performAll deeds) after

theorem Interlude.trans {deeds more : List Deed} {first second third : Desk Outside}
    (earlier : Interlude deeds first second) (later : Interlude more second third) :
    Interlude (deeds ++ more) first third := by
  rw [Interlude, performAll, List.foldl_append]
  exact (earlier.performAll more).trans later

/-- Some deeds have been done, and nothing else to the document, its registry and the pool. -/
def Meddled (before after : Desk Outside) : Prop := ∃ deeds, Interlude deeds before after

instance : IsPreorder (Desk Outside) Meddled where
  refl _ := ⟨[], rfl, rfl, rfl⟩
  trans _ _ _ := fun ⟨_, earlier⟩ ⟨_, later⟩ => ⟨_, earlier.trans later⟩

/-- A ticket given out before is current as long as nothing is done; each deed sets the epoch. -/
theorem isCurrent_performAll (desk : Desk Outside) (deeds : List Deed) (ticket : Ticket) :
    (desk.performAll deeds).pool.isCurrent ticket = true ↔
      deeds = [] ∧ desk.pool.isCurrent ticket = true := by
  rcases List.eq_nil_or_concat deeds with rfl | ⟨deeds, last, rfl⟩
  · simp [performAll]
  · rw [performAll, List.concat_eq_append, List.foldl_append]
    cases last <;> simp [Deed.perform, load, Pool.isCurrent_setEpoch]

/-- The document and its registry are those of the loads among the deeds, one after the other. -/
structure LeftBy (deeds : List Deed) (desk left : Desk Outside) : Prop where
  document : left.document = (desk.loadAll (Deed.loads deeds)).document
  registry : left.registry = (desk.loadAll (Deed.loads deeds)).registry

theorem LeftBy.of_unmoved {deeds : List Deed} {desk left after : Desk Outside}
    (earlier : LeftBy deeds desk left) (unmoved : Unmoved left after) : LeftBy deeds desk after :=
  ⟨unmoved.document.trans earlier.document, unmoved.registry.trans earlier.registry⟩

theorem LeftBy.perform {deeds : List Deed} {desk left : Desk Outside}
    (earlier : LeftBy deeds desk left) (deed : Deed) :
    LeftBy (deeds ++ [deed]) desk (deed.perform left) := by
  obtain ⟨document, registry⟩ := earlier
  cases deed <;> constructor <;>
    simp only [Deed.perform, load, openRegistry, document, registry, Deed.loads, loadAll,
      List.filterMap_append, List.filterMap_cons, List.filterMap_nil, List.append_nil,
      List.foldl_append, List.foldl_cons, List.foldl_nil]

theorem LeftBy.performAll {deeds : List Deed} {desk left : Desk Outside}
    (earlier : LeftBy deeds desk left) (more : List Deed) :
    LeftBy (deeds ++ more) desk (left.performAll more) := by
  induction more generalizing deeds left with
  | nil =>
    rw [List.append_nil]
    exact earlier
  | cons deed more ih =>
    rw [List.append_cons]
    exact ih (earlier.perform deed)

theorem LeftBy.interlude {deeds more : List Deed} {desk left after : Desk Outside}
    (earlier : LeftBy deeds desk left) (interlude : Interlude more left after) :
    LeftBy (deeds ++ more) desk after := by
  obtain ⟨document, registry⟩ := earlier.performAll more
  exact ⟨interlude.document.trans document, interlude.registry.trans registry⟩

/-- The epoch counts the loads. -/
theorem epoch_loadAll (desk : Desk Outside) (loads : List (Option Text × Text)) :
    (desk.loadAll loads).document.epoch = desk.document.epoch + loads.length := by
  induction loads generalizing desk with
  | nil => rfl
  | cons first loads ih =>
    refine (ih _).trans ?_
    simp only [load, List.length_cons]
    omega

end Desk

end FormulaRepair
