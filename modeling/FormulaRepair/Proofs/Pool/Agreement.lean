import FormulaRepair.Proofs.Pool.Latest
import FormulaRepair.Proofs.Validation
import Mathlib.Data.List.Forall2

/-! # Validation in the pool and one after the other

Formulas with ids of their own are handed in for slots of their own, so that no submission makes the
ticket of another one old. As long as the pool is left alone otherwise, every response counts, and the
formulas come back with the verdicts that they get when they are validated one after the other.
-/

namespace FormulaRepair

/-- The formula with the verdict on the outcome of rendering it. -/
def Formula.judgedBy (outcome : Sample → Except Refusal Text) (formula : Formula) : Formula :=
  formula.withVerdict (Verdict.ofRendering (outcome formula.sample))

/-- The formula with a verdict that may be given on it. -/
def Formula.JudgedBy (verdicts : Verdicts) (formula judged : Formula) : Prop :=
  ∃ verdict, verdicts formula.sample verdict ∧ judged = formula.withVerdict verdict

section Judged

variable {formulas judged : List Formula}

private theorem Formula.judgedBy_only_iff {outcome : Sample → Except Refusal Text}
    {formula judged : Formula} :
    JudgedBy (.only outcome) formula judged ↔ formula.judgedBy outcome = judged := by
  simp only [JudgedBy, Verdicts.only, exists_eq_left, judgedBy, eq_comm]

theorem forall₂_judgedBy_only_iff {outcome : Sample → Except Refusal Text} :
    List.Forall₂ (Formula.JudgedBy (.only outcome)) formulas judged ↔
      judged = formulas.map (Formula.judgedBy outcome) := by
  have same : Formula.JudgedBy (.only outcome) = fun formula judged =>
      formula.judgedBy outcome = judged :=
    funext₂ fun _ _ => propext Formula.judgedBy_only_iff
  rw [same, ← List.forall₂_map_left_iff, List.forall₂_eq_eq_eq, eq_comm]

/-- Nothing but the verdicts is filled in. -/
theorem map_asFound_of_judgedBy {verdicts : Verdicts}
    (all : List.Forall₂ (Formula.JudgedBy verdicts) formulas judged) :
    judged.map Formula.asFound = formulas.map Formula.asFound := by
  induction all with
  | nil => rfl
  | cons first _ ih =>
    obtain ⟨verdict, -, rfl⟩ := first
    rw [List.map_cons, List.map_cons, ih]
    rfl

end Judged

namespace Pool

section Submissions

variable {state : Type} [Holds Pool state]

theorem submitAll_cons (formula : Formula) (formulas : List Formula) (whole : state) :
    submitAll (formula :: formulas) whole =
      let pool : Pool := Holds.view whole
      let handedIn := Holds.replace (pool.issue formula.id).2 whole
      if pool.closed then (.error .mk, handedIn)
      else
        let later := submitAll formulas handedIn
        (later.1.map ((formula, (pool.issue formula.id).1) :: ·), later.2) := by
  simp only [submitAll, run_bind, submit_eq]
  split
  · rfl
  · simp only [run_bind]
    cases (submitAll formulas (Holds.replace ((Holds.view whole : Pool).issue formula.id).2 whole)).1
      <;> rfl

/-- Submissions for other slots leave a ticket as it is. -/
theorem isCurrent_submitAll {ticket : Ticket} {formulas : List Formula}
    (others : ∀ formula ∈ formulas, formula.id ≠ ticket.slot) (whole : state) :
    (Holds.view (submitAll formulas whole).2 : Pool).isCurrent ticket =
      (Holds.view whole : Pool).isCurrent ticket := by
  induction formulas generalizing whole with
  | nil => rfl
  | cons formula formulas ih =>
    obtain ⟨other, others⟩ := List.forall_mem_cons.mp others
    rw [submitAll_cons]
    dsimp only
    split
    · rw [Holds.view_replace, isCurrent_issue_of_ne _ other]
    · rw [ih others, Holds.view_replace, isCurrent_issue_of_ne _ other]

/-- An open pool gives each of the formulas a ticket, and when all have one, all are current. -/
theorem submitAll_of_open {formulas : List Formula} (distinct : (formulas.map Formula.id).Nodup)
    {whole : state} (accepting : (Holds.view whole : Pool).closed = false) :
    ∃ work, (submitAll formulas whole).1 = .ok work ∧ work.map Prod.fst = formulas ∧
      ∀ task ∈ work, (Holds.view (submitAll formulas whole).2 : Pool).isCurrent task.2 = true := by
  induction formulas generalizing whole with
  | nil => exact ⟨[], rfl, rfl, by simp⟩
  | cons formula formulas ih =>
    obtain ⟨fresh, distinct⟩ := List.nodup_cons.mp distinct
    have still : (Holds.view (Holds.replace
        ((Holds.view whole : Pool).issue formula.id).2 whole) : Pool).closed = false := by
      rw [Holds.view_replace]
      exact accepting
    obtain ⟨work, handedIn, listed, current⟩ := ih distinct still
    simp only [submitAll_cons, accepting, Bool.false_eq_true, ↓reduceIte, handedIn]
    refine ⟨_, rfl, by rw [List.map_cons, listed], List.forall_mem_cons.mpr ⟨?_, current⟩⟩
    have others : ∀ other ∈ formulas,
        other.id ≠ ((Holds.view whole : Pool).issue formula.id).1.slot :=
      fun other member same => fresh (List.mem_map.mpr ⟨other, member, same⟩)
    rw [isCurrent_submitAll others, Holds.view_replace, isCurrent_issue]

end Submissions

/-- Responses of which none is old give all of the formulas their verdicts. -/
theorem collect?_of_current {pool : Pool} {responses : List (Formula × Response)}
    (current : ∀ response ∈ responses, pool.isCurrent response.2.ticket = true) :
    pool.collect? responses =
      some (responses.map fun response => response.1.withVerdict response.2.verdict) := by
  induction responses with
  | nil => rfl
  | cons response responses ih =>
    obtain ⟨here, later⟩ := List.forall_mem_cons.mp current
    simp only [collect?, verdict?, here, ↓reduceIte, ih later, List.map_cons]

/-- Responses carry the verdicts on the outcomes, and the tickets of the work. -/
theorem respondAll_of_steady {state : Type} [Holds Cache state] {renderer : Renderer state}
    {outcome : Sample → Except Refusal Text} (steady : renderer.Steady outcome) {whole : state}
    (truthful : (Holds.view whole : Cache).Truthful outcome) (work : List (Formula × Ticket)) :
    (respondAll renderer work whole).1 =
        work.map (fun task => (task.1, ⟨task.2, Verdict.ofRendering (outcome task.1.sample)⟩)) ∧
      (Holds.view (respondAll renderer work whole).2 : Cache).Truthful outcome := by
  induction work generalizing whole with
  | nil => exact ⟨rfl, truthful⟩
  | cons task work ih =>
    obtain ⟨verdict, checked⟩ := steady.validate truthful task.1.sample
    obtain ⟨rest, done⟩ := ih checked
    refine ⟨?_, done⟩
    rw [List.map_cons, ← verdict, ← rest]
    rfl

/-- Validation in an open pool that is left alone answers with all verdicts on the outcomes. -/
theorem validateFormulas_of_steady {state : Type} [Holds Cache state] [Holds Pool state]
    (pooled : Overlooks Pool (Kept Cache : state → state → Prop))
    (cached : Overlooks Cache (Kept Pool : state → state → Prop)) {renderer : Renderer state}
    {outcome : Sample → Except Refusal Text} (steady : renderer.Steady outcome)
    (leaves : ∀ sample, Within (Kept Pool) (renderer sample)) {whole : state}
    (truthful : (Holds.view whole : Cache).Truthful outcome)
    (accepting : (Holds.view whole : Pool).closed = false) {formulas : List Formula}
    (distinct : (formulas.map Formula.id).Nodup) :
    (validateFormulas renderer formulas whole).1 =
        .ok (some (formulas.map (Formula.judgedBy outcome))) ∧
      (Holds.view (validateFormulas renderer formulas whole).2 : Cache).Truthful outcome := by
  obtain ⟨work, handedIn, listed, current⟩ := submitAll_of_open distinct accepting
  have sameCache : Kept Cache whole (submitAll formulas whole).2 :=
    within_submitAll pooled formulas whole
  simp only [validateFormulas, run_bind, handedIn, run_read]
  generalize (submitAll formulas whole).2 = submitted at *
  rw [← sameCache] at truthful
  obtain ⟨responded, done⟩ := respondAll_of_steady steady truthful work
  have samePool : Kept Pool submitted (respondAll renderer work submitted).2 :=
    within_respondAll cached leaves work submitted
  refine ⟨congrArg Except.ok ?_, done⟩
  rw [samePool, responded, collect?_of_current, List.map_map, ← listed, List.map_map]
  · rfl
  · intro response member
    obtain ⟨task, handed, rfl⟩ := List.mem_map.mp member
    exact current task handed

end Pool

end FormulaRepair
