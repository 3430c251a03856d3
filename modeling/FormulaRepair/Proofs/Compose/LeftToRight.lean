import FormulaRepair.Proofs.Compose

/-! # Fixes of formulas that are listed in any order

Fixes are written into a text from the last span to the first, so that each of them goes into a text
that has changed only behind it. What comes out is what a walk over the spans from left to right
copies and replaces, and so neither the order of the formulas nor any fix that is not accepted has a
part in it. For this no two spans may overlap; they may touch.
-/

namespace FormulaRepair

namespace Formula

/-- The spans of two formulas have no character in common. -/
def Apart (first second : Formula) : Prop :=
  first.endOffset ≤ second.startOffset ∨ second.endOffset ≤ first.startOffset

instance : DecidableRel Apart := fun first second =>
  inferInstanceAs (Decidable (first.endOffset ≤ _ ∨ second.endOffset ≤ _))

theorem Apart.symm {first second : Formula} (apart : first.Apart second) : second.Apart first :=
  Or.symm apart

/-- The formulas from the first start to the last. -/
def leftToRight (formulas : List Formula) : List Formula :=
  formulas.mergeSort fun first second => first.startOffset ≤ second.startOffset

theorem leftToRight_perm (formulas : List Formula) : (leftToRight formulas).Perm formulas :=
  List.mergeSort_perm formulas _

private theorem pairwise_start_leftToRight (formulas : List Formula) :
    (leftToRight formulas).Pairwise fun first second => first.startOffset ≤ second.startOffset := by
  refine (List.pairwise_mergeSort ?_ ?_ formulas).imp of_decide_eq_true
  · intro first second third
    simp only [decide_eq_true_eq]
    omega
  · intro first second
    simp only [Bool.or_eq_true, decide_eq_true_eq]
    omega

/-- Of two spans that are apart, the one that starts first also ends before the other one starts. -/
theorem pairwise_leftToRight {text : Text} {formulas : List Formula}
    (inside : ∀ formula ∈ formulas, formula.LiesIn text) (apart : formulas.Pairwise Apart) :
    (leftToRight formulas).Pairwise fun earlier later =>
      earlier.endOffset ≤ later.startOffset := by
  have separate : (leftToRight formulas).Pairwise Apart :=
    (leftToRight_perm formulas).symm.pairwise apart fun symmetric => symmetric.symm
  refine ((pairwise_start_leftToRight formulas).and separate).imp_of_mem ?_
  rintro earlier later - member ⟨starts, before | behind⟩
  · exact before
  · obtain ⟨-, nonempty, -⟩ := inside later ((leftToRight_perm formulas).mem_iff.mp member)
    omega

end Formula

/-- Only an accepted fix calls for a replacement. -/
theorem Replacement.ofFormula?_congr {fixOf other : Text → Option Fix} {formula : Formula}
    (same : ∀ fix : Fix, fix.status = .accepted →
      (other formula.id = some fix ↔ fixOf formula.id = some fix)) :
    Replacement.ofFormula? other formula = Replacement.ofFormula? fixOf formula := by
  refine Option.ext fun replacement => ?_
  simp only [Replacement.ofFormula?_eq_some_iff]
  constructor
  · rintro ⟨fix, found, accepted, rfl⟩
    exact ⟨fix, (same fix accepted).mp found, accepted, rfl⟩
  · rintro ⟨fix, found, accepted, rfl⟩
    exact ⟨fix, (same fix accepted).mpr found, accepted, rfl⟩

/-- Formulas without an accepted fix leave the text as it is. -/
theorem compose_of_unaccepted {formulas : List Formula} {fixOf : Text → Option Fix}
    (unaccepted : ∀ formula ∈ formulas, ∀ fix, fixOf formula.id = some fix →
      fix.status ≠ .accepted) (text : Text) : compose text formulas fixOf = text := by
  have nothing : formulas.filterMap (Replacement.ofFormula? fixOf) = [] := by
    refine List.filterMap_eq_nil_iff.mpr fun formula member => ?_
    refine Option.eq_none_iff_forall_ne_some.mpr fun replacement called => ?_
    obtain ⟨fix, found, accepted, -⟩ := Replacement.ofFormula?_eq_some_iff.mp called
    exact unaccepted formula member fix found accepted
  rw [compose, nothing, Replacement.applyAll, Replacement.lastFirst, List.mergeSort_nil]
  rfl

/-- The fixes are written into the text as a walk from left to right would do it: it copies the gap in
front of each span whose formula has an accepted fix, puts the fix in place of the span, and copies
what is left at the end. The order in which the formulas are listed does not matter, fixes that are
pending, rejected or missing have no effect, and without an accepted fix the text stays as it is. -/
theorem compose_left_to_right {text : Text} {formulas : List Formula}
    (inside : ∀ formula ∈ formulas, formula.LiesIn text) (apart : formulas.Pairwise Formula.Apart)
    (fixOf : Text → Option Fix) :
    let ordered := Formula.leftToRight formulas
    ordered.Perm formulas ∧
    (ordered.Pairwise fun earlier later => earlier.endOffset ≤ later.startOffset) ∧
    compose text formulas fixOf =
      Replacement.rebuild text 0 (ordered.filterMap (Replacement.ofFormula? fixOf)) ∧
    (∀ shuffled : List Formula, shuffled.Perm formulas →
      compose text shuffled fixOf = compose text formulas fixOf) ∧
    (∀ other : Text → Option Fix,
      (∀ formula ∈ formulas, ∀ fix : Fix, fix.status = .accepted →
        (other formula.id = some fix ↔ fixOf formula.id = some fix)) →
      compose text formulas other = compose text formulas fixOf) ∧
    ((∀ formula ∈ formulas, ∀ fix, fixOf formula.id = some fix → fix.status ≠ .accepted) →
      compose text formulas fixOf = text) := by
  intro ordered
  have perm : ordered.Perm formulas := Formula.leftToRight_perm formulas
  have walk := Formula.pairwise_leftToRight inside apart
  have within : ∀ formula ∈ ordered, formula.LiesIn text :=
    fun formula member => inside formula (perm.mem_iff.mp member)
  have rebuilt {listed : List Formula} (listing : listed.Perm formulas) :
      compose text listed fixOf =
        Replacement.rebuild text 0 (ordered.filterMap (Replacement.ofFormula? fixOf)) :=
    compose_eq_rebuild_of_perm (listing.trans perm.symm) within walk fixOf
  refine ⟨perm, walk, rebuilt (.refl formulas), fun shuffled listing => ?_,
    fun other same => ?_, fun unaccepted => compose_of_unaccepted unaccepted text⟩
  · exact (rebuilt listing).trans (rebuilt (.refl formulas)).symm
  · have calls : formulas.filterMap (Replacement.ofFormula? other) =
        formulas.filterMap (Replacement.ofFormula? fixOf) :=
      List.filterMap_congr fun formula member => Replacement.ofFormula?_congr (same formula member)
    rw [compose, compose, calls]

/-- A formula with a span and nothing else that matters. -/
def spanning (rank : Nat) (start stop : Int) : Formula where
  id := Text.ofNat rank
  raw := []
  rawWithDelimiters := []
  delimiter := .inlineDollar
  startOffset := start
  endOffset := stop
  lineNumber := 1

/-- A fix with a text and a status, and nothing else that matters. -/
def writing (rank : Nat) (text : Text) (status : FixStatus) : Fix where
  formulaId := Text.ofNat rank
  replacedRaw := []
  fixedRaw := []
  fixedWithDelimiters := text
  fixedIsValid := true
  status := status

/-- Two spans touch, the later one is listed first, one fix is longer than its span and one is
shorter, and a third one is pending. -/
theorem compose_left_to_right_touching :
    let text := "ab$x$$y$cd".toList
    let formulas := [spanning 2 8 9, spanning 1 5 8, spanning 0 2 5]
    let fixes :=
      [ writing 0 "$long$".toList .accepted, writing 1 [] .accepted
      , writing 2 "c".toList .pending ]
    let fixOf (id : Text) := fixes.find? (·.formulaId == id)
    (∀ formula ∈ formulas, formula.LiesIn text) ∧ formulas.Pairwise Formula.Apart ∧
      compose text formulas fixOf = "ab$long$cd".toList ∧
      compose text formulas.reverse fixOf = "ab$long$cd".toList := by
  intro text formulas fixes fixOf
  have inside : ∀ formula ∈ formulas, formula.LiesIn text := by decide
  have apart : formulas.Pairwise Formula.Apart := by decide
  obtain ⟨-, -, -, shuffles, -⟩ := compose_left_to_right inside apart fixOf
  have composed : compose text formulas fixOf = "ab$long$cd".toList := by
    rw [compose_eq_rebuild_of_perm formulas.reverse_perm.symm
      (fun formula member => inside formula (List.mem_reverse.mp member)) (by decide) fixOf]
    decide
  exact ⟨inside, apart, composed, (shuffles _ formulas.reverse_perm).trans composed⟩

end FormulaRepair
