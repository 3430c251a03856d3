/-! # Parts of a larger state

Validation needs a cache, a repair needs a whole desk, and both let typesetters and providers run in
between, which carry a state of their own. Each operation therefore works on any state that holds
the part it needs, and leaves the rest of the state alone.
-/

namespace FormulaRepair

/-- A state that holds a part which can be read and replaced. -/
class Holds (part state : Type) where
  view : state → part
  replace : part → state → state
  view_replace : ∀ value whole, view (replace value whole) = value
  replace_view : ∀ whole, replace (view whole) whole = whole
  replace_replace : ∀ later earlier whole,
    replace later (replace earlier whole) = replace later whole

namespace Holds

/-- A state holds itself. -/
instance (part : Type) : Holds part part where
  view whole := whole
  replace value _ := value
  view_replace _ _ := rfl
  replace_view _ := rfl
  replace_replace _ _ _ := rfl

/-- The part as it is now. -/
def read (part : Type) {state : Type} [Holds part state] : StateM state part :=
  fun whole => (view whole, whole)

/-- Change the part and nothing else. -/
def update {part state : Type} [Holds part state] (change : part → part) : StateM state Unit :=
  fun whole => ((), replace (change (view whole)) whole)

end Holds

end FormulaRepair
