import FormulaRepair.Pool
import FormulaRepair.Registry
import Mathlib.Order.Defs.Unbundled

/-! # What actions do to the state around them

Typesetters and providers may act on the state at any moment, so a fact about an operation is best
stated as a relation between the states before and after it that everything inside it respects as
well. Such a relation passes from the renderer to all of validation, one after the other or in the
pool, as long as it does not look at the cache and the pool.
-/

namespace FormulaRepair

variable {state α β : Type}

theorem run_bind (first : StateM state α) (next : α → StateM state β) (whole : state) :
    (first >>= next) whole = next (first whole).1 (first whole).2 := rfl

theorem run_get (whole : state) : (get : StateM state state) whole = (whole, whole) := by rfl

theorem run_read (part : Type) [Holds part state] (whole : state) :
    Holds.read part whole = (Holds.view whole, whole) := rfl

/-- From whatever state the action starts in, the relation leads to the state it ends in. -/
def Within (allowed : state → state → Prop) (action : StateM state α) : Prop :=
  ∀ whole, allowed whole (action whole).2

section Rules

variable {allowed : state → state → Prop}

theorem within_pure [Std.Refl allowed] (value : α) :
    Within allowed (pure value : StateM state α) := fun whole => Std.Refl.refl whole

theorem within_bind [IsTrans state allowed] {first : StateM state α} {next : α → StateM state β}
    (start : Within allowed first) (later : ∀ value, Within allowed (next value)) :
    Within allowed (first >>= next) := fun whole =>
  IsTrans.trans whole _ _ (start whole) (later _ _)

theorem within_get [Std.Refl allowed] : Within allowed (get : StateM state state) :=
  fun whole => Std.Refl.refl whole

theorem within_modify {change : state → state} (step : ∀ whole, allowed whole (change whole)) :
    Within allowed (modify change : StateM state PUnit) := step

theorem within_read [Std.Refl allowed] (part : Type) [Holds part state] :
    Within allowed (Holds.read part : StateM state part) := fun whole => Std.Refl.refl whole

end Rules

/-- The relation does not look at a part: any value may be put in its place. -/
def Overlooks (part : Type) [Holds part state] (allowed : state → state → Prop) : Prop :=
  ∀ (value : part) whole, allowed whole (Holds.replace value whole)

/-- The part is as it was before. -/
def Kept (part : Type) [Holds part state] (before after : state) : Prop :=
  (Holds.view after : part) = Holds.view before

instance (part : Type) [Holds part state] : IsPreorder state (Kept part) where
  refl _ := rfl
  trans _ _ _ earlier later := later.trans earlier

theorem within_update {allowed : state → state → Prop} {part : Type} [Holds part state]
    (unseen : Overlooks part allowed) (change : part → part) :
    Within allowed (Holds.update change : StateM state Unit) := fun whole => unseen _ whole

section Validation

variable [Holds Cache state] {allowed : state → state → Prop} [IsPreorder state allowed]
  {renderer : Renderer state}

/-- Validation does what its renderer does, and changes the cache. -/
theorem within_validate (cached : Overlooks Cache allowed)
    (renders : ∀ sample, Within allowed (renderer sample)) (sample : Sample) :
    Within allowed (renderer.validate sample) := by
  refine within_bind (within_read Cache) fun cache => ?_
  split
  · exact within_pure _
  · refine within_bind (renders sample) fun outcome => ?_
    exact within_bind (within_update cached _) fun _ => within_pure _

theorem within_validateAll (cached : Overlooks Cache allowed)
    (renders : ∀ sample, Within allowed (renderer sample)) (formulas : List Formula) :
    Within allowed (renderer.validateAll formulas) := by
  induction formulas with
  | nil => exact within_pure _
  | cons formula formulas ih =>
    refine within_bind ?_ fun checked => within_bind ih fun _ => within_pure _
    exact within_bind (within_validate cached renders _) fun _ => within_pure _

theorem within_respondAll (cached : Overlooks Cache allowed)
    (renders : ∀ sample, Within allowed (renderer sample)) (work : List (Formula × Ticket)) :
    Within allowed (Pool.respondAll renderer work) := by
  induction work with
  | nil => exact within_pure _
  | cons task work ih =>
    refine within_bind ?_ fun response => within_bind ih fun _ => within_pure _
    exact within_bind (within_validate cached renders _) fun _ => within_pure _

variable [Holds Pool state]

omit [Holds Cache state] in
theorem within_submitAll (pooled : Overlooks Pool allowed) (formulas : List Formula) :
    Within allowed (Pool.submitAll formulas : StateM state _) := by
  induction formulas with
  | nil => exact within_pure _
  | cons formula formulas ih =>
    have submit : Within allowed (Pool.submit formula.id : StateM state _) :=
      within_bind (within_read Pool) fun _ =>
        within_bind (within_update pooled _) fun _ => within_pure _
    refine within_bind submit fun submitted => ?_
    split
    · exact within_pure _
    · refine within_bind ih fun later => ?_
      split <;> exact within_pure _

/-- Validation in the pool does what its renderer does, and changes the cache and the pool. -/
theorem within_validateFormulas (cached : Overlooks Cache allowed) (pooled : Overlooks Pool allowed)
    (renders : ∀ sample, Within allowed (renderer sample)) (formulas : List Formula) :
    Within allowed (Pool.validateFormulas renderer formulas) := by
  refine within_bind (within_submitAll pooled formulas) fun submitted => ?_
  split
  · exact within_pure _
  · refine within_bind (within_respondAll cached renders _) fun responses => ?_
    exact within_bind (within_read Pool) fun _ => within_pure _

end Validation

end FormulaRepair
