import FormulaRepair.Typesetting

/-! # A bounded cache of verdicts

The cache keeps the verdicts put into it last, up to its capacity. Putting a verdict makes its
sample the most recent one; looking one up does not.
-/

namespace FormulaRepair

/-- Verdicts by sample, from the one put first to the one put last. -/
structure Cache where
  capacity : Nat
  entries : List (Sample × Verdict) := []
deriving Repr

namespace Cache

/-- The capacity when none is asked for. -/
def defaultCapacity : Int := 800

/-- An empty cache that has room for at least one verdict. -/
def ofCapacity (wanted : Int) : Cache := { capacity := max 1 wanted.toNat }

instance : Inhabited Cache := ⟨ofCapacity defaultCapacity⟩

/-- The verdict kept for a sample. -/
def get? (cache : Cache) (sample : Sample) : Option Verdict :=
  (cache.entries.find? (·.1 == sample)).map (·.2)

/-- Is a verdict kept for the sample? -/
def contains (cache : Cache) (sample : Sample) : Bool := (cache.get? sample).isSome

/-- The number of verdicts kept. -/
def size (cache : Cache) : Nat := cache.entries.length

/-- Keep a verdict as the most recent one, at the cost of the oldest ones beyond the capacity. -/
def put (cache : Cache) (sample : Sample) (verdict : Verdict) : Cache :=
  let entries := cache.entries.filter (·.1 != sample) ++ [(sample, verdict)]
  { cache with entries := entries.drop (entries.length - cache.capacity) }

/-- Keep nothing. -/
def clear (cache : Cache) : Cache := { cache with entries := [] }

end Cache

end FormulaRepair
