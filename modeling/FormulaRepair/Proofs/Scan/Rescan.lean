import FormulaRepair.Proofs.Compose
import FormulaRepair.Proofs.Scan.Mending

/-! # Scanning a text again after repairs

A text with accepted fixes written into it is read piece by piece like the text before, so that it has
the same formulas in the same order, of which those with a fix have got their new content. The proof
goes along the reading of the old text and builds up, from the end to the front, that what follows is
alike for the pieces in front of it.
-/

namespace FormulaRepair

/-- The accepted fix for an id. -/
def acceptedFix? (fixOf : Text → Option Fix) (id : Text) : Option Fix :=
  (fixOf id).filter (·.status == .accepted)

theorem acceptedFix?_eq_some_iff {fixOf : Text → Option Fix} {id : Text} {fix : Fix} :
    acceptedFix? fixOf id = some fix ↔ fixOf id = some fix ∧ fix.status = .accepted := by
  rw [acceptedFix?, Option.filter_eq_some_iff]
  simp

private theorem Replacement.ofFormula?_eq_map (fixOf : Text → Option Fix) (formula : Formula) :
    Replacement.ofFormula? fixOf formula =
      (acceptedFix? fixOf formula.id).map fun fix =>
        ⟨formula.startOffset, formula.endOffset, fix.fixedWithDelimiters⟩ := by
  unfold Replacement.ofFormula? acceptedFix?
  cases fixOf formula.id with
  | none => rfl
  | some fix => by_cases accepted : fix.status = .accepted <;> simp [Option.filter, accepted]

/-- A formula and what it has become: the accepted fix, when there is one, has replaced its content,
and everything else but its place is as before. -/
structure Renewed (fixOf : Text → Option Fix) (old new : Formula) : Prop where
  id : new.id = old.id
  delimiter : new.delimiter = old.delimiter
  content : match acceptedFix? fixOf old.id with
    | none => new.raw = old.raw ∧ new.rawWithDelimiters = old.rawWithDelimiters
    | some fix =>
        new.raw = fix.fixedRaw ∧ new.rawWithDelimiters = old.delimiter.wrap fix.fixedRaw

/-- The accepted fix of a formula, if any, puts a content between its delimiters that they accept. -/
def Mends (fixOf : Text → Option Fix) (formula : Formula) : Prop :=
  ∀ fix ∈ acceptedFix? fixOf formula.id,
    fix.fixedWithDelimiters = formula.delimiter.wrap fix.fixedRaw ∧
      formula.delimiter.Accepts fix.fixedRaw

namespace Scan

variable (fixOf : Text → Option Fix)

/-- The text from a place on, with the accepted fixes of its formulas written into it. -/
def mended (before : Text) (rank : Nat) (mode : Mode) (text : Text) : Text :=
  Replacement.rebuild (before ++ text) before.length
    ((formulasFrom before rank mode text).filterMap (Replacement.ofFormula? fixOf))

section Steps

variable (before : Text) (rank : Nat)

private theorem mended_end {mode : Mode} {text : Text} (ended : read? mode text = none) :
    mended fixOf before rank mode text = text := by
  rw [mended, formulasFrom_end _ _ ended]
  exact Text.startingAt_append rfl

/-- The replacements for formulas from a place on start there or later. -/
private theorem le_start {mode : Mode} {text : Text} {replacement : Replacement}
    (member : replacement ∈
      (formulasFrom before rank mode text).filterMap (Replacement.ofFormula? fixOf)) :
    (before.length : Int) ≤ replacement.start := by
  obtain ⟨formula, listed, called⟩ := List.mem_filterMap.mp member
  obtain ⟨fix, -, -, rfl⟩ := Replacement.ofFormula?_eq_some_iff.mp called
  exact le_startOffset listed

private theorem mended_other {mode : Mode} {piece : Piece} (reads : Reads mode piece)
    (other : ∀ delimiter content, piece.reading ≠ .formula delimiter content) :
    mended fixOf before rank mode (piece.taken ++ piece.rest) =
      piece.taken ++ mended fixOf (before ++ piece.taken) rank piece.next piece.rest := by
  rw [mended, formulasFrom_other before rank reads other, mended,
    Replacement.rebuild_append before piece.taken piece.rest fun _ => le_start fixOf _ _,
    List.append_assoc]

/-- A formula is copied, or gives way to its accepted fix. -/
theorem mended_formula {delimiter : Delimiter} {content : Text} (rest : Text)
    (encloses : delimiter.Encloses content) :
    mended fixOf before rank .prose (delimiter.wrap content ++ rest) =
      (match acceptedFix? fixOf (formulaId rank) with
        | none => delimiter.wrap content
        | some fix => fix.fixedWithDelimiters) ++
      mended fixOf (before ++ delimiter.wrap content) (rank + 1) .prose rest := by
  rw [mended, formulasFrom_formula before rank rest encloses, List.filterMap_cons,
    Replacement.ofFormula?_eq_map, mended, List.append_assoc]
  cases accepted : acceptedFix? fixOf (formulaId rank) with
  | none =>
    simp only [formulaAt, accepted, Option.map_none]
    exact Replacement.rebuild_append before _ rest fun _ => le_start fixOf _ _
  | some fix =>
    have nothing (whole : Text) : whole.slice before.length before.length = [] := by
      simp [Text.slice]
    simp only [formulaAt, accepted, Option.map_some, Replacement.rebuild, nothing,
      List.nil_append, List.length_append]

end Steps

/-- Writing fixes into the text from a place on does not disturb what stands in front of it, and
reading goes on to find the same formulas, with the contents of their fixes. -/
theorem formulasFrom_mended {before : Text} {rank : Nat} {mode : Mode} {text : Text}
    (mends : ∀ formula ∈ formulasFrom before rank mode text, Mends fixOf formula) (place : Text) :
    Alike text (mended fixOf before rank mode text) ∧
      List.Forall₂ (Renewed fixOf) (formulasFrom before rank mode text)
        (formulasFrom place rank mode (mended fixOf before rank mode text)) := by
  -- Along the reading of the old text. That the rest is alike lets the piece in front be read again.
  induction mode, text using reading_induction generalizing before rank place with
  | ended mode text ended =>
    rw [mended_end fixOf _ _ ended, formulasFrom_end _ _ ended, formulasFrom_end _ _ ended]
    exact ⟨.refl text, .nil⟩
  | formula delimiter content rest encloses ih =>
    rw [formulasFrom_formula _ _ rest encloses] at mends ⊢
    obtain ⟨here, later⟩ := List.forall_mem_cons.mp mends
    rw [mended_formula fixOf _ _ rest encloses]
    cases accepted : acceptedFix? fixOf (formulaId rank) with
    | none =>
      obtain ⟨alike, renewed⟩ := ih later (place ++ delimiter.wrap content)
      refine ⟨alike.append _, ?_⟩
      rw [formulasFrom_formula _ _ _ encloses]
      refine .cons ⟨rfl, rfl, ?_⟩ renewed
      simp only [formulaAt, accepted, and_self]
    | some fix =>
      obtain ⟨wrapped, accepts⟩ : fix.fixedWithDelimiters = delimiter.wrap fix.fixedRaw ∧
          delimiter.Accepts fix.fixedRaw := here fix accepted
      obtain ⟨alike, renewed⟩ := ih later (place ++ delimiter.wrap fix.fixedRaw)
      simp only [wrapped]
      refine ⟨alike.wrap encloses accepts, ?_⟩
      rw [formulasFrom_formula _ _ _ accepts.encloses]
      refine .cons ⟨rfl, rfl, ?_⟩ renewed
      simp only [formulaAt, accepted, accepts.stripped, and_self]
  | other mode piece reads other ih =>
    rw [formulasFrom_other _ _ reads other] at mends ⊢
    rw [mended_other fixOf _ _ reads other]
    obtain ⟨alike, renewed⟩ := ih mends (place ++ piece.taken)
    refine ⟨alike.append _, ?_⟩
    have passed := formulasFrom_other place rank (reads.of_alike alike) other
    rw [passed]
    exact renewed

end Scan

/-- Scanning a text again, after the accepted fixes of its formulas were written into it, finds the
same formulas with the contents of their fixes. -/
theorem renewed_formulas_compose {text : Text} {formulas : List Formula}
    (found : FoundIn text formulas) {fixOf : Text → Option Fix}
    (mends : ∀ formula ∈ formulas, Mends fixOf formula) :
    List.Forall₂ (Renewed fixOf) formulas (Scan.formulas (compose text formulas fixOf)) := by
  have listed : ∀ formula ∈ Scan.formulasFrom [] 0 .prose text, Mends fixOf formula := by
    rw [← Scan.formulas_eq_formulasFrom, ← found]
    exact List.forall_mem_map.mpr mends
  have whole : compose text formulas fixOf = Scan.mended fixOf [] 0 .prose text := by
    have same : Replacement.ofFormula? fixOf ∘ Formula.asFound = Replacement.ofFormula? fixOf := rfl
    rw [compose_eq_rebuild found, Scan.mended, ← Scan.formulas_eq_formulasFrom, ← found,
      List.filterMap_map, same]
    rfl
  obtain ⟨-, renewed⟩ := Scan.formulasFrom_mended fixOf listed []
  rw [← Scan.formulas_eq_formulasFrom, ← Scan.formulas_eq_formulasFrom, ← found,
    List.forall₂_map_left_iff, ← whole] at renewed
  exact renewed.imp fun old new same => ⟨same.id, same.delimiter, same.content⟩

end FormulaRepair
