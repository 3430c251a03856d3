import FormulaRepair.Proofs.Rebuild
import FormulaRepair.Proofs.Registry
import FormulaRepair.Proofs.Scan.Spans
import FormulaRepair.Proofs.Validation

/-! # Writing fixes into the text whose formulas they replace

The formulas found in a text lie in it one behind the other, and validation does not move them.
Writing fixes into the text therefore rebuilds it from left to right, formula by formula.
-/

namespace FormulaRepair

theorem Scan.map_asFound_formulas (text : Text) :
    (Scan.formulas text).map Formula.asFound = Scan.formulas text := by
  rw [Scan.formulas_eq_formulasFrom]
  refine (List.map_congr_left fun formula member => ?_).trans (List.map_id _)
  obtain ⟨index, found⟩ := List.mem_iff_getElem?.mp member
  obtain ⟨delimiter, gap, content, after, -, -, rfl⟩ := Scan.formulasFrom_getElem? found
  rfl

/-- The formulas are those found in the text, with verdicts filled in. -/
def FoundIn (text : Text) (formulas : List Formula) : Prop :=
  formulas.map Formula.asFound = Scan.formulas text

namespace FoundIn

variable {text : Text} {formulas : List Formula}

theorem nodup_map_id (found : FoundIn text formulas) : (formulas.map Formula.id).Nodup := by
  have ids := Scan.nodup_map_id_formulas text
  rw [← found, List.map_map] at ids
  exact ids

/-- The id tells the formulas of one text apart. -/
theorem eq_of_id_eq (found : FoundIn text formulas) {first second : Formula}
    (firstMember : first ∈ formulas) (secondMember : second ∈ formulas)
    (same : first.id = second.id) : first = second :=
  List.inj_on_of_nodup_map found.nodup_map_id firstMember secondMember same

/-- In a registry for these formulas, the fix under the id of a formula is the one made for it. -/
theorem related (found : FoundIn text formulas) {registry : Registry}
    (known : registry.formulas = formulas) {relation : Formula → Fix → Prop}
    (relates : registry.Relates relation)
    (named : ∀ formula fix, relation formula fix → fix.formulaId = formula.id)
    {formula : Formula} (member : formula ∈ formulas) {fix : Fix}
    (kept : registry.fix? formula.id = some fix) : relation formula fix := by
  obtain ⟨fixMember, fixId⟩ := Registry.fix?_eq_some kept
  obtain ⟨other, listed, made⟩ := relates fix fixMember
  rw [known] at listed
  have same := found.eq_of_id_eq listed member ((named other fix made).symm.trans fixId)
  rwa [same] at made

theorem span_bounds (found : FoundIn text formulas) {formula : Formula}
    (member : formula ∈ formulas) :
    0 ≤ formula.startOffset ∧ formula.startOffset < formula.endOffset ∧
      formula.endOffset ≤ text.length := by
  have listed : formula.asFound ∈ Scan.formulas text := by
    rw [← found]
    exact List.mem_map_of_mem member
  have bounds := Scan.span_bounds listed
  exact bounds

theorem exists_split (found : FoundIn text formulas) {formula : Formula}
    (member : formula ∈ formulas) :
    ∃ before content after,
      text = before ++ (formula.rawWithDelimiters ++ after) ∧
        formula.rawWithDelimiters = formula.delimiter.wrap content ∧
        formula.startOffset = before.length ∧
        formula.endOffset = (before ++ formula.rawWithDelimiters).length := by
  have listed : formula.asFound ∈ Scan.formulas text := by
    rw [← found]
    exact List.mem_map_of_mem member
  have split := Scan.exists_split listed
  exact split

theorem pairwise (found : FoundIn text formulas) :
    formulas.Pairwise fun earlier later => earlier.endOffset ≤ later.startOffset := by
  have ordered := Scan.formulasFrom_pairwise [] 0 .prose text
  rw [← Scan.formulas_eq_formulasFrom, ← found, List.pairwise_map] at ordered
  exact ordered

end FoundIn

theorem Replacement.ofFormula?_eq_some_iff {fixOf : Text → Option Fix} {formula : Formula}
    {replacement : Replacement} :
    Replacement.ofFormula? fixOf formula = some replacement ↔
      ∃ fix, fixOf formula.id = some fix ∧ fix.status = .accepted ∧
        replacement = ⟨formula.startOffset, formula.endOffset, fix.fixedWithDelimiters⟩ := by
  unfold Replacement.ofFormula?
  cases fixOf formula.id with
  | none => simp
  | some fix =>
    by_cases accepted : fix.status = .accepted
    · simp [accepted, eq_comm]
    · simp [accepted]

/-- The span of a formula is not empty and lies in a text. -/
def Formula.LiesIn (text : Text) (formula : Formula) : Prop :=
  0 ≤ formula.startOffset ∧ formula.startOffset < formula.endOffset ∧
    formula.endOffset ≤ text.length

instance (text : Text) (formula : Formula) : Decidable (formula.LiesIn text) :=
  inferInstanceAs (Decidable (_ ∧ _ ∧ _))

/-- The fixes of formulas are written into a text from left to right, in whatever order the formulas
are listed. -/
theorem compose_eq_rebuild_of_perm {text : Text} {formulas ordered : List Formula}
    (listed : formulas.Perm ordered) (inside : ∀ formula ∈ ordered, formula.LiesIn text)
    (apart : ordered.Pairwise fun earlier later => earlier.endOffset ≤ later.startOffset)
    (fixOf : Text → Option Fix) :
    compose text formulas fixOf =
      Replacement.rebuild text 0 (ordered.filterMap (Replacement.ofFormula? fixOf)) := by
  refine Replacement.applyAll_eq_rebuild (listed.filterMap _) ?_ ?_
  · intro replacement member
    obtain ⟨formula, listed, called⟩ := List.mem_filterMap.mp member
    obtain ⟨fix, -, -, rfl⟩ := Replacement.ofFormula?_eq_some_iff.mp called
    exact inside formula listed
  · refine apart.filterMap _ fun first second ordered => ?_
    intro earlier earlierCalled later laterCalled
    obtain ⟨fix, -, -, rfl⟩ := Replacement.ofFormula?_eq_some_iff.mp earlierCalled
    obtain ⟨other, -, -, rfl⟩ := Replacement.ofFormula?_eq_some_iff.mp laterCalled
    exact ordered

/-- Fixes of formulas found in a text are written into it from left to right. -/
theorem compose_eq_rebuild {text : Text} {formulas : List Formula} (found : FoundIn text formulas)
    (fixOf : Text → Option Fix) :
    compose text formulas fixOf =
      Replacement.rebuild text 0 (formulas.filterMap (Replacement.ofFormula? fixOf)) :=
  compose_eq_rebuild_of_perm (.refl formulas) (fun _ => found.span_bounds) found.pairwise fixOf

end FormulaRepair
