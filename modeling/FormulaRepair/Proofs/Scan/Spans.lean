import FormulaRepair.Proofs.Lines
import FormulaRepair.Proofs.Scan.Reading
import FormulaRepair.Proofs.Slices
import FormulaRepair.Scan
import Mathlib.Data.List.Nodup

/-! # The spans of the formulas found in a text

A formula is found behind some beginning of the text, and that beginning determines its offsets and
its line. Placing the pieces of a text yields exactly these formulas, whatever the line counter has
seen before; so the spans lie in the text, in order, and each is the text of its formula.
-/

namespace FormulaRepair.Scan

theorem pieces_of_read?_eq_none {mode : Mode} {text : Text} (ended : read? mode text = none) :
    pieces mode text = [] := by
  rw [pieces]
  split
  · rfl
  · next found => rw [ended] at found; cases found

theorem pieces_of_read? {mode : Mode} {text : Text} {piece : Piece}
    (found : read? mode text = some piece) :
    pieces mode text = piece :: pieces piece.next piece.rest := by
  rw [pieces]
  split
  · next ended => rw [found] at ended; cases ended
  · next other => rw [found] at other; cases other; rfl

private theorem formulaId_injective : Function.Injective formulaId := by
  intro first second same
  have digits : Nat.toDigits 10 first = Nat.toDigits 10 second := List.append_cancel_left same
  rw [← Nat.ofDigitChars_ten_toDigits (n := first), digits, Nat.ofDigitChars_ten_toDigits]

/-- The formula with the given content behind a beginning of the text. -/
def formulaAt (before : Text) (rank : Nat) (delimiter : Delimiter) (content : Text) : Formula :=
  { id := formulaId rank
    raw := content.strip
    rawWithDelimiters := delimiter.wrap content
    delimiter := delimiter
    startOffset := before.length
    endOffset := (before.length + (delimiter.wrap content).length : Nat)
    lineNumber := (before.newlines + 1 : Nat) }

/-- The formulas among pieces that follow a beginning of the text, numbered from the given rank. -/
def listed (before : Text) (rank : Nat) : List Piece → List Formula
  | [] => []
  | piece :: rest =>
      match piece.reading with
      | .formula delimiter content =>
          formulaAt before rank delimiter content :: listed (before ++ piece.taken) (rank + 1) rest
      | _ => listed (before ++ piece.taken) rank rest

/-- The formulas that reading finds from a place in the text on. -/
def formulasFrom (before : Text) (rank : Nat) (mode : Mode) (text : Text) : List Formula :=
  listed before rank (pieces mode text)

section Steps

variable (before : Text) (rank : Nat)

theorem formulasFrom_end {mode : Mode} {text : Text} (ended : read? mode text = none) :
    formulasFrom before rank mode text = [] := by
  rw [formulasFrom, pieces_of_read?_eq_none ended, listed]

/-- A formula is listed, and reading goes on behind it. -/
theorem formulasFrom_formula {delimiter : Delimiter} {content : Text} (rest : Text)
    (encloses : delimiter.Encloses content) :
    formulasFrom before rank .prose (delimiter.wrap content ++ rest) =
      formulaAt before rank delimiter content ::
        formulasFrom (before ++ delimiter.wrap content) (rank + 1) .prose rest := by
  rw [formulasFrom, pieces_of_read? (read?_of_reads (.formula rest encloses)), listed]
  rfl

/-- Any other piece is passed over. -/
theorem formulasFrom_other {mode : Mode} {piece : Piece} (reads : Reads mode piece)
    (other : ∀ delimiter content, piece.reading ≠ .formula delimiter content) :
    formulasFrom before rank mode (piece.taken ++ piece.rest) =
      formulasFrom (before ++ piece.taken) rank piece.next piece.rest := by
  rw [formulasFrom, pieces_of_read? (read?_of_reads reads), listed]
  split
  · next delimiter content reading => exact absurd reading (other delimiter content)
  · rfl

end Steps

/-- Reading on from a place, as an induction: at the end, at a formula, and at any other piece. -/
theorem reading_induction {motive : Mode → Text → Prop}
    (ended : ∀ mode text, read? mode text = none → motive mode text)
    (formula : ∀ (delimiter : Delimiter) (content rest : Text), delimiter.Encloses content →
      motive .prose rest → motive .prose (delimiter.wrap content ++ rest))
    (other : ∀ mode piece, Reads mode piece →
      (∀ delimiter content, piece.reading ≠ .formula delimiter content) →
      motive piece.next piece.rest → motive mode (piece.taken ++ piece.rest))
    (mode : Mode) (text : Text) : motive mode text := by
  induction mode, text using pieces.induct with
  | case1 mode text none => exact ended mode text none
  | case2 mode text piece found ih =>
    obtain ⟨rfl, reads⟩ := read?_eq_some_iff.mp found
    by_cases isFormula : ∃ delimiter content, piece.reading = .formula delimiter content
    · obtain ⟨delimiter, content, reading⟩ := isFormula
      cases reads <;> cases reading
      next rest encloses => exact formula delimiter content rest encloses ih
    · simp only [not_exists] at isFormula
      exact other mode piece reads isFormula ih

/-- Placing pieces with a line counter lists the formulas with their lines counted afresh. -/
theorem place_eq_listed {counter : LineCounter} (exact : counter.Exact) {before : Text} {rank : Nat}
    {mode : Mode} {text : Text} (whole : counter.text = before ++ text) :
    place counter before.length rank (pieces mode text) = formulasFrom before rank mode text := by
  induction mode, text using reading_induction generalizing counter before rank with
  | ended mode text ended => rw [formulasFrom_end _ _ ended, pieces_of_read?_eq_none ended, place]
  | formula delimiter content rest encloses ih =>
    have line : (counter.lineAt before.length).1 = before.newlines + 1 := by
      rw [LineCounter.lineAt_line exact, whole]
      rw [Text.lineOf, Text.upTo_append rfl]
    have moved : (counter.lineAt before.length).2.text =
        (before ++ delimiter.wrap content) ++ rest := by
      rw [LineCounter.lineAt_text, whole, List.append_assoc]
    rw [formulasFrom_formula _ _ rest encloses,
      ← ih (LineCounter.lineAt_exact exact before.length) moved,
      pieces_of_read? (read?_of_reads (.formula rest encloses)), place]
    simp only [line, formulaAt, List.length_append]
  | other mode piece reads other ih =>
    have moved : counter.text = (before ++ piece.taken) ++ piece.rest := by
      rw [whole, List.append_assoc]
    rw [formulasFrom_other _ _ reads other, ← ih exact moved, pieces_of_read? (read?_of_reads reads),
      place, List.length_append]
    split
    · next delimiter content reading => exact absurd reading (other delimiter content)
    · rfl

theorem formulas_eq_formulasFrom (text : Text) : formulas text = formulasFrom [] 0 .prose text := by
  change place { text := text } ([] : Text).length 0 (pieces .prose text) = _
  exact place_eq_listed (LineCounter.exact_start text) rfl

/-- The formula of a rank lies behind the beginning of the text that determines it. -/
theorem formulasFrom_getElem? {before : Text} {first : Nat} {mode : Mode} {text : Text} {index : Nat}
    {formula : Formula} (found : (formulasFrom before first mode text)[index]? = some formula) :
    ∃ (delimiter : Delimiter) (gap content after : Text),
      text = gap ++ delimiter.wrap content ++ after ∧ delimiter.Encloses content ∧
        formula = formulaAt (before ++ gap) (first + index) delimiter content := by
  induction mode, text using reading_induction generalizing before first index with
  | ended mode text ended => rw [formulasFrom_end _ _ ended] at found; cases found
  | formula delimiter content rest encloses ih =>
    rw [formulasFrom_formula _ _ rest encloses] at found
    cases index with
    | zero =>
      cases found
      exact ⟨delimiter, [], content, rest, rfl, encloses, by rw [List.append_nil]; rfl⟩
    | succ index =>
      obtain ⟨kind, gap, inner, after, rfl, innerEncloses, rfl⟩ := ih found
      refine ⟨kind, delimiter.wrap content ++ gap, inner, after, by simp, innerEncloses, ?_⟩
      rw [List.append_assoc, Nat.add_right_comm, ← Nat.add_assoc]
  | other mode piece reads other ih =>
    rw [formulasFrom_other _ _ reads other] at found
    obtain ⟨kind, gap, content, after, same, encloses, rfl⟩ := ih found
    exact ⟨kind, piece.taken ++ gap, content, after, by rw [same]; simp, encloses,
      by rw [List.append_assoc]⟩

/-- Every formula found from a place on starts there or later. -/
theorem le_startOffset {before : Text} {first : Nat} {mode : Mode} {text : Text} {formula : Formula}
    (member : formula ∈ formulasFrom before first mode text) :
    (before.length : Int) ≤ formula.startOffset := by
  obtain ⟨index, found⟩ := List.mem_iff_getElem?.mp member
  obtain ⟨delimiter, gap, content, after, -, -, rfl⟩ := formulasFrom_getElem? found
  simp only [formulaAt, List.length_append]
  omega

/-- Spans follow one another without overlap. -/
theorem formulasFrom_pairwise (before : Text) (first : Nat) (mode : Mode) (text : Text) :
    (formulasFrom before first mode text).Pairwise
      fun earlier later => earlier.endOffset ≤ later.startOffset := by
  induction mode, text using reading_induction generalizing before first with
  | ended mode text ended => rw [formulasFrom_end _ _ ended]; exact .nil
  | formula delimiter content rest encloses ih =>
    rw [formulasFrom_formula _ _ rest encloses]
    refine .cons (fun later member => ?_) (ih _ _)
    have bound := le_startOffset member
    rwa [List.length_append] at bound
  | other mode piece reads other ih =>
    rw [formulasFrom_other _ _ reads other]
    exact ih _ _

/-- Every span is a nonempty part of the text. -/
theorem span_bounds {text : Text} {formula : Formula} (member : formula ∈ formulas text) :
    0 ≤ formula.startOffset ∧ formula.startOffset < formula.endOffset ∧
      formula.endOffset ≤ text.length := by
  rw [formulas_eq_formulasFrom] at member
  obtain ⟨index, found⟩ := List.mem_iff_getElem?.mp member
  obtain ⟨delimiter, gap, content, after, rfl, -, rfl⟩ := formulasFrom_getElem? found
  have positive := List.length_pos_iff.mpr (delimiter.wrap_ne_nil content)
  simp only [formulaAt, List.nil_append, List.length_append]
  omega

/-- A formula found in a text is what stands at its span, between its delimiters. -/
theorem exists_split {text : Text} {formula : Formula} (member : formula ∈ formulas text) :
    ∃ before content after,
      text = before ++ (formula.rawWithDelimiters ++ after) ∧
        formula.rawWithDelimiters = formula.delimiter.wrap content ∧
        formula.startOffset = before.length ∧
        formula.endOffset = (before ++ formula.rawWithDelimiters).length := by
  rw [formulas_eq_formulasFrom] at member
  obtain ⟨index, found⟩ := List.mem_iff_getElem?.mp member
  obtain ⟨delimiter, before, content, after, rfl, -, rfl⟩ := formulasFrom_getElem? found
  refine ⟨before, content, after, by simp [formulaAt], rfl, rfl, ?_⟩
  simp only [formulaAt, List.nil_append, List.length_append]

private theorem map_id_formulas (text : Text) :
    (formulas text).map Formula.id = (List.range (formulas text).length).map formulaId := by
  refine List.ext_getElem? fun index => ?_
  rw [List.getElem?_map, List.getElem?_map]
  cases found : (formulas text)[index]? with
  | none =>
    rw [List.getElem?_eq_none_iff.mpr (by simpa using List.getElem?_eq_none_iff.mp found)]
    rfl
  | some formula =>
    rw [List.getElem?_range (List.getElem?_eq_some_iff.mp found).1]
    rw [formulas_eq_formulasFrom] at found
    obtain ⟨delimiter, gap, content, after, -, -, rfl⟩ := formulasFrom_getElem? found
    simp [formulaAt]

/-- No two formulas of a text have the same id. -/
theorem nodup_map_id_formulas (text : Text) : ((formulas text).map Formula.id).Nodup := by
  rw [map_id_formulas]
  exact List.Nodup.map formulaId_injective List.nodup_range

/-- The formulas of a text are numbered in order, lie in it one behind the other, and are the text of
their spans; each is closed by the first closing mark behind its opening mark. -/
theorem formulas_sound (text : Text) :
    (∀ (rank : Nat) (formula : Formula), (formulas text)[rank]? = some formula →
      formula.id = formulaId rank ∧
      0 ≤ formula.startOffset ∧ formula.startOffset < formula.endOffset ∧
      formula.endOffset ≤ text.length ∧
      text.slice formula.startOffset formula.endOffset = formula.rawWithDelimiters ∧
      formula.lineNumber = 1 + ((text.upTo formula.startOffset).newlines : Int) ∧
      ∃ content,
        formula.rawWithDelimiters =
          formula.delimiter.opener ++ content ++ formula.delimiter.closer ∧
        formula.raw = content.strip ∧ formula.delimiter.Encloses content ∧
        (formula.delimiter = .inlineDollar → content.head? ≠ some '$')) ∧
    (formulas text).Pairwise fun earlier later => earlier.endOffset ≤ later.startOffset := by
  refine ⟨fun rank formula found => ?_, formulas_eq_formulasFrom text ▸ formulasFrom_pairwise ..⟩
  have bounds := span_bounds (List.mem_of_getElem? found)
  rw [formulas_eq_formulasFrom] at found
  obtain ⟨delimiter, before, content, after, rfl, encloses, rfl⟩ := formulasFrom_getElem? found
  rw [List.nil_append, Nat.zero_add, List.append_assoc] at bounds ⊢
  obtain ⟨nonneg, nonempty, bounded⟩ := bounds
  refine ⟨rfl, nonneg, nonempty, bounded, ?_, ?_, content, rfl, rfl, encloses, ?_⟩
  · have span := Text.slice_append before (delimiter.wrap content) after
    rwa [List.length_append] at span
  · simp only [formulaAt, Text.upTo_append rfl]
    omega
  · rintro rfl dollar
    obtain ⟨-, -, escaped, -⟩ := encloses
    cases content with
    | nil => cases dollar
    | cons first content =>
      cases dollar
      cases escaped [] content rfl

end FormulaRepair.Scan
