import FormulaRepair.Proofs.Scan.Spans

/-! # Documents made of segments

A document may be put together from segments of six kinds: plain runs, escapes, amounts of money,
inline code, code blocks and formulas. Where every segment is well formed and no code block follows
inline code at once, scanning recovers exactly the formulas that were put in, and nothing else.
-/

namespace FormulaRepair.Scan

/-- A building block of a document. -/
inductive Segment
  | plain (run : Text)
  | escape (escaped : Char)
  | currency (digit : Char)
  | inlineCode (body : Text)
  | fence (body : Text)
  | formula (delimiter : Delimiter) (content : Text)
deriving DecidableEq, Repr

namespace Segment

/-- A segment as it stands in the document. -/
def text : Segment → Text
  | plain run => run
  | escape escaped => ['\\', escaped]
  | currency digit => ['$', digit]
  | inlineCode body => '`' :: (body ++ ['`'])
  | fence body => codeFence ++ body ++ codeFence
  | formula delimiter content => delimiter.wrap content

/-- What a segment must be like to be read as the kind that it is. -/
def WellFormed : Segment → Prop
  | plain run => run ≠ [] ∧ ∀ c ∈ run, c ≠ '`' ∧ c ≠ '\\' ∧ c ≠ '$'
  | escape escaped => escaped ≠ '(' ∧ escaped ≠ '['
  | currency digit => digit.isDigit = true
  | inlineCode body => body ≠ [] ∧ '`' ∉ body
  | fence body => Text.EndsFirst codeFence body
  | formula delimiter content => delimiter.Encloses content

/-- Inline code is not followed by a code block at once. -/
def MayFollow : Segment → Segment → Prop
  | inlineCode _, fence _ => False
  | _, _ => True

instance : DecidablePred WellFormed
  -- A run is searched for special characters; the instance that searches all characters is not meant.
  | plain run =>
      @instDecidableAnd (run ≠ []) _ inferInstance
        (List.decidableBAll (fun c => c ≠ '`' ∧ c ≠ '\\' ∧ c ≠ '$') run)
  | escape escaped => inferInstanceAs (Decidable (escaped ≠ '(' ∧ escaped ≠ '['))
  | currency digit => inferInstanceAs (Decidable (digit.isDigit = true))
  | inlineCode body => inferInstanceAs (Decidable (body ≠ [] ∧ '`' ∉ body))
  | fence body => inferInstanceAs (Decidable (Text.EndsFirst codeFence body))
  | formula delimiter content => inferInstanceAs (Decidable (delimiter.Encloses content))

instance : DecidableRel MayFollow
  | inlineCode _, fence _ => .isFalse id
  | plain _, _ | escape _, _ | currency _, _ | fence _, _ | formula _ _, _
  | inlineCode _, plain _ | inlineCode _, escape _ | inlineCode _, currency _
  | inlineCode _, inlineCode _ | inlineCode _, formula _ _ => .isTrue trivial

/-- The document made of segments. -/
def document (segments : List Segment) : Text := segments.flatMap text

/-- The formulas among segments that follow a beginning of the document. -/
def formulas (before : Text) (rank : Nat) : List Segment → List Formula
  | [] => []
  | formula delimiter content :: rest =>
      formulaAt before rank delimiter content ::
        formulas (before ++ delimiter.wrap content) (rank + 1) rest
  | segment :: rest => formulas (before ++ segment.text) rank rest

end Segment

section Passing

variable (before : Text) (rank : Nat)

private theorem formulasFrom_plain {run : Text}
    (plain : ∀ c ∈ run, c ≠ '`' ∧ c ≠ '\\' ∧ c ≠ '$') (rest : Text) :
    formulasFrom before rank .prose (run ++ rest) =
      formulasFrom (before ++ run) rank .prose rest := by
  induction run generalizing before with
  | nil => simp
  | cons first run ih =>
    obtain ⟨tick, backslash, dollar⟩ := plain first (List.mem_cons_self ..)
    have step := formulasFrom_other before rank
      (.plain (run ++ rest) tick backslash dollar) (by simp)
    have tail := ih (before ++ [first])
      fun c member => plain c (List.mem_cons_of_mem _ member)
    rw [List.append_assoc] at tail
    exact step.trans tail

private theorem formulasFrom_escape {escaped : Char} (ordinary : bracketDelimiter? escaped = none)
    (rest : Text) :
    formulasFrom before rank .prose (['\\', escaped] ++ rest) =
      formulasFrom (before ++ ['\\', escaped]) rank .prose rest :=
  formulasFrom_other before rank (.escape rest ordinary) (by simp)

private theorem formulasFrom_currency {digit : Char} (isDigit : digit.isDigit = true)
    (rest : Text) :
    formulasFrom before rank .prose (['$', digit] ++ rest) =
      formulasFrom (before ++ ['$', digit]) rank .prose rest := by
  have sign := formulasFrom_other before rank
    (.currency (digit :: rest) isDigit) (by simp)
  have plain : digit ≠ '`' ∧ digit ≠ '\\' ∧ digit ≠ '$' := by
    refine ⟨?_, ?_, ?_⟩ <;> rintro rfl <;> exact absurd isDigit (by decide)
  have amount := formulasFrom_plain (before ++ ['$']) rank (List.forall_mem_singleton.mpr plain) rest
  rw [List.append_assoc] at amount
  exact sign.trans amount

/-- Inline code is passed over. -/
theorem formulasFrom_inlineCode {body rest : Text} (nonempty : body ≠ [])
    (noTick : '`' ∉ body) (alone : ¬ ['`', '`'] <+: rest) :
    formulasFrom before rank .prose ('`' :: (body ++ ['`']) ++ rest) =
      formulasFrom (before ++ '`' :: (body ++ ['`'])) rank .prose rest := by
  have first : ¬ ['`', '`'] <+: body ++ '`' :: rest := by
    cases body with
    | nil => exact absurd rfl nonempty
    | cons head body =>
      intro run
      obtain ⟨rfl, -⟩ := List.cons_prefix_cons.mp run
      exact noTick (List.mem_cons_self ..)
  have opened := formulasFrom_other before rank (.openTick _ first) (by simp)
  have passed := formulasFrom_other (before ++ ['`']) rank
    (.inlineCode ('`' :: rest) nonempty noTick (by simp)) (by simp)
  have closed := formulasFrom_other (before ++ ['`'] ++ body) rank
    (.closeTick rest alone) (by simp)
  have whole := opened.trans (passed.trans closed)
  simpa using whole

/-- A code block is passed over. -/
theorem formulasFrom_fence {body : Text} (first : Text.EndsFirst codeFence body)
    (rest : Text) :
    formulasFrom before rank .prose (codeFence ++ body ++ codeFence ++ rest) =
      formulasFrom (before ++ (codeFence ++ body ++ codeFence)) rank .prose rest := by
  have opened := formulasFrom_other before rank
    (.openFence (body ++ codeFence ++ rest)) (by simp)
  have closed := formulasFrom_other (before ++ codeFence ++ body) rank
    (.closeFence rest) (by simp)
  have passed : formulasFrom (before ++ codeFence) rank .fenced (body ++ codeFence ++ rest) =
      formulasFrom (before ++ codeFence ++ body) rank .fenced (codeFence ++ rest) := by
    by_cases empty : body = []
    · subst empty
      simp
    · have step := formulasFrom_other (before ++ codeFence) rank
        (.fencedCode (codeFence ++ rest) empty first (List.prefix_append ..)) (by simp)
      simpa using step
  have whole := opened.trans (passed.trans closed)
  simpa using whole

end Passing

/-- Behind inline code, a document starts with a run of backticks only where a code block does. -/
private theorem not_ticks_prefix_document {segments : List Segment}
    (wellFormed : ∀ segment ∈ segments, segment.WellFormed)
    (next : ∀ segment ∈ segments.head?, ∀ body, segment ≠ .fence body) :
    ¬ ['`', '`'] <+: Segment.document segments := by
  intro run
  cases segments with
  | nil => simp [Segment.document] at run
  | cons segment segments =>
    have formed := wellFormed segment (List.mem_cons_self ..)
    rw [Segment.document, List.flatMap_cons] at run
    cases segment with
    | plain chars =>
      obtain ⟨nonempty, plain⟩ := formed
      cases chars with
      | nil => exact nonempty rfl
      | cons first chars =>
        obtain ⟨rfl, -⟩ := List.cons_prefix_cons.mp run
        exact (plain '`' (List.mem_cons_self ..)).1 rfl
    | escape escaped => exact absurd (List.cons_prefix_cons.mp run).1 (by decide)
    | currency digit => exact absurd (List.cons_prefix_cons.mp run).1 (by decide)
    | inlineCode body =>
      obtain ⟨nonempty, noTick⟩ := formed
      cases body with
      | nil => exact nonempty rfl
      | cons first body =>
        obtain ⟨rfl, -⟩ := List.cons_prefix_cons.mp (List.cons_prefix_cons.mp run).2
        exact noTick (List.mem_cons_self ..)
    | fence body => exact next _ rfl body rfl
    | formula delimiter content =>
      cases delimiter <;> exact absurd (List.cons_prefix_cons.mp run).1 (by decide)

private theorem formulasFrom_document {segments : List Segment}
    (wellFormed : ∀ segment ∈ segments, segment.WellFormed)
    (separate : segments.IsChain Segment.MayFollow) (before : Text) (rank : Nat) :
    formulasFrom before rank .prose (Segment.document segments) =
      Segment.formulas before rank segments := by
  induction segments generalizing before rank with
  | nil => exact formulasFrom_end _ _ rfl
  | cons segment segments ih =>
    have formed := wellFormed segment (List.mem_cons_self ..)
    have later := fun other member => wellFormed other (List.mem_cons_of_mem _ member)
    have rest := ih later separate.tail
    change formulasFrom before rank .prose (segment.text ++ Segment.document segments) = _
    cases segment with
    | plain run => exact (formulasFrom_plain _ _ formed.2 _).trans (rest _ _)
    | escape escaped =>
      have ordinary : bracketDelimiter? escaped = none := by
        unfold bracketDelimiter?
        split
        · exact absurd rfl formed.1
        · exact absurd rfl formed.2
        · rfl
      exact (formulasFrom_escape _ _ ordinary _).trans (rest _ _)
    | currency digit => exact (formulasFrom_currency _ _ formed _).trans (rest _ _)
    | inlineCode body =>
      have alone : ¬ ['`', '`'] <+: Segment.document segments := by
        refine not_ticks_prefix_document later ?_
        rintro next head block rfl
        exact separate.rel_head? head
      exact (formulasFrom_inlineCode _ _ formed.1 formed.2 alone).trans (rest _ _)
    | fence body => exact (formulasFrom_fence _ _ formed _).trans (rest _ _)
    | formula delimiter content =>
      have step := formulasFrom_formula before rank (Segment.document segments) formed
      rw [rest] at step
      exact step

/-- Scanning a document made of well-formed segments yields one formula for each formula segment, in
order, at the place where the segment stands. -/
theorem formulas_document (segments : List Segment)
    (wellFormed : ∀ segment ∈ segments, segment.WellFormed)
    (separate : segments.IsChain Segment.MayFollow) :
    formulas (Segment.document segments) = Segment.formulas [] 0 segments := by
  rw [formulas_eq_formulasFrom, formulasFrom_document wellFormed separate]

/-- Segments of every kind, where neighbours could be mistaken for one another. -/
def Segment.mixed : List Segment :=
  [ plain "a ".toList, formula .inlineDollar "x\\$y".toList, formula .blockDollar "z".toList
  , escape '$', currency '5', fence "$a$".toList, inlineCode "$b$".toList
  , formula .inlineParen "[c".toList, formula .blockBracket [] ]

theorem formulas_document_mixed :
    formulas (Segment.document Segment.mixed) = Segment.formulas [] 0 Segment.mixed :=
  formulas_document Segment.mixed (by decide) (by decide)

end FormulaRepair.Scan
