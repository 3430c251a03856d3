import FormulaRepair.Proofs.Actions

/-! # What validation answers

Validation fills in the validity and the error message of formulas and changes nothing else about
them, whatever the renderer does. Where the outcome of rendering depends on the sample alone and the
cache holds nothing else, the verdicts are those of the renderer, as if there were no cache.
-/

namespace FormulaRepair

/-- The formula as scanning finds it, before it is validated. -/
def Formula.asFound (formula : Formula) : Formula :=
  { formula with isValid := true, errorMessage := none }

variable {state : Type}

section Formulas

variable [Holds Cache state]

/-- A verdict in the cache is the answer, and nothing is rendered. -/
theorem Renderer.validate_of_kept {sample : Sample} {whole : state} {verdict : Verdict}
    (renderer : Renderer state) (kept : (Holds.view whole : Cache).get? sample = some verdict) :
    renderer.validate sample whole = (verdict, whole) := by
  simp only [validate, run_bind, run_read, kept]
  rfl

/-- Without one, the outcome of rendering decides, and its verdict goes into the cache. -/
theorem Renderer.validate_of_missing {sample : Sample} {whole : state} (renderer : Renderer state)
    (missing : (Holds.view whole : Cache).get? sample = none) :
    renderer.validate sample whole =
      let verdict := Verdict.ofRendering (renderer sample whole).1
      let rendered := (renderer sample whole).2
      (verdict, Holds.replace ((Holds.view rendered : Cache).put sample verdict) rendered) := by
  simp only [validate, run_bind, run_read, missing]
  rfl

theorem validateAll_asFound (renderer : Renderer state) (formulas : List Formula) (whole : state) :
    (renderer.validateAll formulas whole).1.map Formula.asFound =
      formulas.map Formula.asFound := by
  induction formulas generalizing whole with
  | nil => rfl
  | cons formula formulas ih => exact congrArg (formula.asFound :: ·) (ih _)

private theorem respondAll_formulas (renderer : Renderer state) (work : List (Formula × Ticket))
    (whole : state) : (Pool.respondAll renderer work whole).1.map Prod.fst = work.map Prod.fst := by
  induction work generalizing whole with
  | nil => rfl
  | cons task work ih => exact congrArg (task.1 :: ·) (ih _)

omit [Holds Cache state] in
private theorem submitAll_formulas [Holds Pool state] {formulas : List Formula} {whole : state}
    {work : List (Formula × Ticket)} (handedIn : (Pool.submitAll formulas whole).1 = .ok work) :
    work.map Prod.fst = formulas := by
  induction formulas generalizing whole work with
  | nil => cases handedIn; rfl
  | cons formula formulas ih =>
    simp only [Pool.submitAll, run_bind] at handedIn
    cases submitted : (Pool.submit formula.id whole).1 with
    | error closed => rw [submitted] at handedIn; cases handedIn
    | ok ticket =>
      simp only [submitted, run_bind] at handedIn
      cases later : (Pool.submitAll formulas (Pool.submit formula.id whole).2).1 with
      | error closed => rw [later] at handedIn; cases handedIn
      | ok tickets =>
        rw [later] at handedIn
        cases handedIn
        exact congrArg (formula :: ·) (ih later)

private theorem collect?_asFound {pool : Pool} {responses : List (Formula × Response)}
    {formulas : List Formula} (collected : pool.collect? responses = some formulas) :
    formulas.map Formula.asFound = (responses.map Prod.fst).map Formula.asFound := by
  induction responses generalizing formulas with
  | nil => cases collected; rfl
  | cons response responses ih =>
    rw [Pool.collect?] at collected
    split at collected
    · next verdict later _ found =>
      cases collected
      exact congrArg (response.1.asFound :: ·) (ih found)
    · cases collected

theorem validateFormulas_asFound [Holds Pool state] {renderer : Renderer state}
    {formulas checked : List Formula} {whole : state}
    (answered : (Pool.validateFormulas renderer formulas whole).1 = .ok (some checked)) :
    checked.map Formula.asFound = formulas.map Formula.asFound := by
  simp only [Pool.validateFormulas, run_bind] at answered
  cases handedIn : (Pool.submitAll formulas whole).1 with
  | error closed => rw [handedIn] at answered; cases answered
  | ok work =>
    rw [handedIn] at answered
    have collected := Except.ok.inj answered
    rw [collect?_asFound collected, respondAll_formulas, submitAll_formulas handedIn]

end Formulas

section Verdicts

variable {outcome : Sample → Except Refusal Text}

theorem Verdict.success_ofRendering (rendering : Except Refusal Text) :
    (Verdict.ofRendering rendering).success = rendering.isOk := by
  rcases rendering with (message | fault) | markup <;> rfl

/-- The verdicts that validation may give on each sample. -/
abbrev Verdicts := Sample → Verdict → Prop

/-- The verdict on the outcome, and no other. -/
def Verdicts.only (outcome : Sample → Except Refusal Text) : Verdicts :=
  fun sample verdict => verdict = .ofRendering (outcome sample)

section Caches

variable {cache : Cache} {verdicts : Verdicts} {sample : Sample} {verdict : Verdict}

/-- Every verdict kept is one that may be given on its sample. -/
def Cache.AllowedBy (cache : Cache) (verdicts : Verdicts) : Prop :=
  ∀ entry ∈ cache.entries, verdicts entry.1 entry.2

theorem Cache.AllowedBy.get? (allowed : cache.AllowedBy verdicts)
    (kept : cache.get? sample = some verdict) : verdicts sample verdict := by
  obtain ⟨entry, found, rfl⟩ := Option.map_eq_some_iff.mp kept
  have same : entry.1 = sample := by simpa using List.find?_some found
  rw [← same]
  exact allowed entry (List.mem_of_find?_eq_some found)

theorem Cache.AllowedBy.put (allowed : cache.AllowedBy verdicts)
    (given : verdicts sample verdict) : (cache.put sample verdict).AllowedBy verdicts := by
  intro entry member
  rcases List.mem_append.mp (List.mem_of_mem_drop member) with old | new
  · exact allowed entry ((List.mem_filter.mp old).1)
  · rw [List.mem_singleton.mp new]
    exact given

/-- Every verdict kept is that on the outcome of its sample. -/
def Cache.Truthful (cache : Cache) (outcome : Sample → Except Refusal Text) : Prop :=
  ∀ entry ∈ cache.entries, entry.2 = Verdict.ofRendering (outcome entry.1)

theorem Cache.allowedBy_only_iff : cache.AllowedBy (.only outcome) ↔ cache.Truthful outcome :=
  Iff.rfl

theorem Cache.Truthful.get? (truthful : cache.Truthful outcome)
    (kept : cache.get? sample = some verdict) : verdict = Verdict.ofRendering (outcome sample) :=
  (allowedBy_only_iff.mpr truthful).get? kept

theorem Cache.Truthful.put (truthful : cache.Truthful outcome) (sample : Sample) :
    (cache.put sample (Verdict.ofRendering (outcome sample))).Truthful outcome :=
  (allowedBy_only_iff.mpr truthful).put rfl

end Caches

variable [Holds Cache state]

/-- The outcome of rendering depends on the sample alone, and rendering puts no verdict of another
outcome into the cache. -/
structure Renderer.Steady (renderer : Renderer state) (outcome : Sample → Except Refusal Text) :
    Prop where
  outcome_eq : ∀ sample whole, (renderer sample whole).1 = outcome sample
  truthful : ∀ sample whole, (Holds.view whole : Cache).Truthful outcome →
    (Holds.view (renderer sample whole).2 : Cache).Truthful outcome

/-- Rendering gives the samples verdicts that they may have, and puts no others into the cache. -/
structure Renderer.Gives (renderer : Renderer state) (verdicts : Verdicts) : Prop where
  given : ∀ sample whole, verdicts sample (.ofRendering (renderer sample whole).1)
  allowed : ∀ sample whole, (Holds.view whole : Cache).AllowedBy verdicts →
    (Holds.view (renderer sample whole).2 : Cache).AllowedBy verdicts

variable {renderer : Renderer state}

/-- Validation answers with the verdict on the outcome, from the cache or not. -/
theorem Renderer.Steady.validate (steady : renderer.Steady outcome) {whole : state}
    (truthful : (Holds.view whole : Cache).Truthful outcome) (sample : Sample) :
    (renderer.validate sample whole).1 = Verdict.ofRendering (outcome sample) ∧
      (Holds.view (renderer.validate sample whole).2 : Cache).Truthful outcome := by
  cases kept : (Holds.view whole : Cache).get? sample with
  | some verdict =>
    rw [Renderer.validate_of_kept renderer kept]
    exact ⟨truthful.get? kept, truthful⟩
  | none =>
    have rendered := steady.truthful sample whole truthful
    rw [Renderer.validate_of_missing renderer kept, steady.outcome_eq]
    refine ⟨rfl, ?_⟩
    rw [Holds.view_replace]
    exact rendered.put sample

/-- Validation fills in the verdicts on the outcomes. -/
theorem Renderer.Steady.validateAll (steady : renderer.Steady outcome) {whole : state}
    (truthful : (Holds.view whole : Cache).Truthful outcome) (formulas : List Formula) :
    (renderer.validateAll formulas whole).1 =
        formulas.map (fun formula =>
          formula.withVerdict (Verdict.ofRendering (outcome formula.sample))) ∧
      (Holds.view (renderer.validateAll formulas whole).2 : Cache).Truthful outcome := by
  induction formulas generalizing whole with
  | nil => exact ⟨rfl, truthful⟩
  | cons formula formulas ih =>
    obtain ⟨verdict, checked⟩ := steady.validate truthful formula.sample
    obtain ⟨rest, done⟩ := ih checked
    refine ⟨?_, done⟩
    rw [List.map_cons, ← verdict, ← rest]
    rfl

end Verdicts

end FormulaRepair
