import FormulaRepair.Proofs.Desk.Operations

/-! # Repairs with minutes

Minutes of a batch list the requests that it sends to its provider, in order. They are kept in the
world outside, where neither the renderer nor the provider sees them, and so the batch with minutes
is the batch without them in everything else that it does.
-/

namespace FormulaRepair

variable {World problem α β : Type}

/-- The world outside a desk, and the requests that have been sent to the provider. -/
structure Minuted (World : Type) where
  world : World
  requests : List RepairRequest

namespace Desk

/-- The desk with minutes that have nothing in them. -/
def withMinutes (desk : Desk World) : Desk (Minuted World) :=
  { desk with outside := ⟨desk.outside, []⟩ }

/-- The desk without its minutes. -/
def withoutMinutes (desk : Desk (Minuted World)) : Desk World :=
  { desk with outside := desk.outside.world }

/-- Enter a request into the minutes. -/
def note (desk : Desk (Minuted World)) (request : RepairRequest) : Desk (Minuted World) :=
  { desk with outside := { desk.outside with requests := desk.outside.requests ++ [request] } }

/-- The minutes are as they were. -/
def SameMinutes (before after : Desk (Minuted World)) : Prop :=
  after.outside.requests = before.outside.requests

instance : IsPreorder (Desk (Minuted World)) SameMinutes where
  refl _ := rfl
  trans _ _ _ earlier later := later.trans earlier

end Desk

open Desk

/-- An action of something that does not see the minutes. -/
def unaware (action : StateM (Desk World) α) : StateM (Desk (Minuted World)) α := fun desk =>
  let done := action desk.withoutMinutes
  (done.1, { done.2 with outside := ⟨done.2.outside, desk.outside.requests⟩ })

private theorem within_unaware (action : StateM (Desk World) α) :
    Within SameMinutes (unaware action) := fun _ => rfl

/-- The repairer with minutes of the requests to its provider. -/
def Repairer.minuted (repairer : Repairer World problem) : Repairer (Minuted World) problem where
  renderer sample := unaware (repairer.renderer sample)
  provider :=
    { name := repairer.provider.name
      repair := fun request => do
        modify (·.note request)
        unaware (repairer.provider.repair request) }
  contextSize := repairer.contextSize

theorem Repairer.within_minuted_renderer (repairer : Repairer World problem) (sample : Sample) :
    Within SameMinutes (repairer.minuted.renderer sample) := within_unaware _

/-- The requests that a batch sends, in order. -/
def Repairer.requests (repairer : Repairer World problem) (formulas : List Formula)
    (desk : Desk World) : List RepairRequest :=
  (repairer.minuted.repairAll formulas desk.withMinutes).2.outside.requests

/-- But for the minutes, the one action is the other one. -/
def Erases (minuted : StateM (Desk (Minuted World)) α) (plain : StateM (Desk World) α) : Prop :=
  ∀ desk, ((minuted desk).1, (minuted desk).2.withoutMinutes) = plain desk.withoutMinutes

section Rules

private theorem erases_unaware (action : StateM (Desk World) α) : Erases (unaware action) action :=
  fun _ => rfl

theorem erases_pure (value : α) :
    Erases (pure value : StateM (Desk (Minuted World)) α) (pure value) := fun _ => rfl

theorem erases_bind {minuted : StateM (Desk (Minuted World)) α} {plain : StateM (Desk World) α}
    {minutedNext : α → StateM (Desk (Minuted World)) β} {next : α → StateM (Desk World) β}
    (start : Erases minuted plain) (later : ∀ value, Erases (minutedNext value) (next value)) :
    Erases (minuted >>= minutedNext) (plain >>= next) := by
  intro desk
  rw [run_bind, run_bind, ← start desk]
  exact later _ _

/-- What is done with the desk that is looked at must not depend on its minutes. -/
theorem erases_get_bind {minutedNext : Desk (Minuted World) → StateM (Desk (Minuted World)) α}
    {next : Desk World → StateM (Desk World) α}
    (later : ∀ desk, Erases (minutedNext desk) (next desk.withoutMinutes)) :
    Erases (get >>= minutedNext) (get >>= next) := fun desk => later desk desk

theorem erases_ite {condition : Prop} [Decidable condition]
    {minuted other : StateM (Desk (Minuted World)) α} {plain otherPlain : StateM (Desk World) α}
    (holds : Erases minuted plain) (fails : Erases other otherPlain) :
    Erases (if condition then minuted else other) (if condition then plain else otherPlain) := by
  split
  · exact holds
  · exact fails

private theorem erases_modify {minuted : Desk (Minuted World) → Desk (Minuted World)}
    {plain : Desk World → Desk World}
    (step : ∀ desk, (minuted desk).withoutMinutes = plain desk.withoutMinutes) :
    Erases (modify minuted : StateM _ PUnit) (modify plain) := fun desk =>
  congrArg (Prod.mk PUnit.unit) (step desk)

end Rules

private theorem erases_validate (renderer : Renderer (Desk World)) (sample : Sample) :
    Erases (Renderer.validate (fun sample => unaware (renderer sample)) sample)
      (renderer.validate sample) := by
  refine erases_bind (fun _ => rfl) fun cache => ?_
  split
  · exact erases_pure _
  · refine erases_bind (erases_unaware _) fun outcome => ?_
    exact erases_bind (fun _ => rfl) fun _ => erases_pure _

private theorem erases_propose (renderer : Renderer (Desk World))
    (id replacement provenance : Text) :
    Erases (Renderer.propose (fun sample => unaware (renderer sample)) id replacement provenance)
      (renderer.propose id replacement provenance) := by
  refine erases_bind (fun _ => rfl) fun registry => ?_
  split
  · exact erases_pure _
  · refine erases_bind (erases_validate renderer _) fun verdict => ?_
    exact erases_bind (fun _ => rfl) fun _ => erases_pure _

namespace Repairer

variable (repairer : Repairer World problem)

/-- The turn of a formula in a batch of the given epoch. -/
def turn (epoch : Nat) (formula : Formula) : StateM (Desk World) (RepairResult problem) := do
  if (← get).document.epoch = epoch then
    RepairResult.ofRepair <$> repairer.repair formula (some (epoch : Int))
  else return .stale

theorem turn_eq (epoch : Nat) (formula : Formula) (desk : Desk World) :
    repairer.turn epoch formula desk =
      if desk.document.epoch = epoch then
        let ended := repairer.repair formula (some (epoch : Int)) desk
        (RepairResult.ofRepair ended.1, ended.2)
      else (.stale, desk) := by
  simp only [turn, run_bind, run_get]
  split <;> rfl

/-- A batch is the turn of its first formula, and then the rest of it. -/
theorem repairFrom_cons_turn (epoch : Nat) (formula : Formula) (formulas : List Formula)
    (desk : Desk World) :
    repairer.repairFrom epoch (formula :: formulas) desk =
      let turned := repairer.turn epoch formula desk
      let later := repairer.repairFrom epoch formulas turned.2
      (⟨formula.id, turned.1⟩ :: later.1, later.2) := by
  rw [repairFrom_cons, turn_eq]

private theorem erases_consult (formula : Formula) (epoch : Int) :
    Erases (repairer.minuted.consult formula epoch) (repairer.consult formula epoch) := by
  refine erases_get_bind fun desk => ?_
  have asked (request : RepairRequest) :
      Erases (repairer.minuted.provider.repair request) (repairer.provider.repair request) :=
    fun _ => rfl
  refine erases_bind (asked _) fun answer => ?_
  split
  · exact erases_pure _
  · refine erases_get_bind fun desk => erases_ite ?_ (erases_pure _)
    refine erases_bind (erases_propose repairer.renderer _ _ _) fun proposed => ?_
    split <;> exact erases_pure _

private theorem erases_repair (formula : Formula) (epoch : Option Int) :
    Erases (repairer.minuted.repair formula epoch) (repairer.repair formula epoch) := by
  refine erases_get_bind fun desk => ?_
  refine erases_ite (erases_pure _) (erases_ite (erases_pure _) ?_)
  have marks : Erases (modify (·.mark formula.id) : StateM (Desk (Minuted World)) PUnit)
      (modify (·.mark formula.id)) := erases_modify fun _ => rfl
  have unmarks : Erases (modify (·.unmark formula.id) : StateM (Desk (Minuted World)) PUnit)
      (modify (·.unmark formula.id)) := erases_modify fun _ => rfl
  refine erases_bind marks fun _ => ?_
  refine erases_bind (repairer.erases_consult formula _) fun result => ?_
  exact erases_bind unmarks fun _ => erases_pure _

theorem erases_turn (epoch : Nat) (formula : Formula) :
    Erases (repairer.minuted.turn epoch formula) (repairer.turn epoch formula) :=
  erases_get_bind fun _ =>
    erases_ite (erases_bind (repairer.erases_repair formula _) fun _ => erases_pure _)
      (erases_pure _)

private theorem erases_repairFrom (epoch : Nat) (formulas : List Formula) :
    Erases (repairer.minuted.repairFrom epoch formulas) (repairer.repairFrom epoch formulas) := by
  induction formulas with
  | nil => exact erases_pure _
  | cons formula formulas ih =>
    intro desk
    rw [repairFrom_cons_turn, repairFrom_cons_turn, ← repairer.erases_turn epoch formula desk]
    dsimp only
    rw [← ih]

/-- A batch with minutes is the batch without them. -/
theorem erases_repairAll (formulas : List Formula) :
    Erases (repairer.minuted.repairAll formulas) (repairer.repairAll formulas) :=
  erases_get_bind fun _ => repairer.erases_repairFrom _ formulas

end Repairer

end FormulaRepair
