import FormulaRepair.Proofs.Scan.Concatenation
import FormulaRepair.Proofs.Scan.Segments

/-! # Formulas and code

Code between its marks is passed over when reading comes to the opening mark in prose. It does not
come there when a formula begins in front of the code and ends behind its opening mark, since the
search for a closing mark looks through code as through any other text. So code is opaque exactly
when no opening mark that stays open in front of it is closed by the code or by what follows.
-/

namespace FormulaRepair

/-- The span of the formula has a character of the range in it. -/
def Formula.Overlaps (formula : Formula) (start stop : Int) : Prop :=
  formula.startOffset < stop ∧ start < formula.endOffset

instance (formula : Formula) (start stop : Int) : Decidable (formula.Overlaps start stop) :=
  inferInstanceAs (Decidable (_ ∧ _))

instance (delimiter : Delimiter) (text : Text) : Decidable (delimiter.Unclosed text) :=
  match delimiter with
  | .inlineDollar =>
      inferInstanceAs (Decidable (('$' :: text).IsChain Delimiter.inlineDollar.Passes ∧
        Scan.startsWithDigit text = false))
  | .blockDollar => inferInstanceAs (Decidable (text.IsChain Delimiter.blockDollar.Passes))
  | .inlineParen => inferInstanceAs (Decidable (text.IsChain Delimiter.inlineParen.Passes))
  | .blockBracket => inferInstanceAs (Decidable (text.IsChain Delimiter.blockBracket.Passes))

namespace Scan

/-- The ways of setting code apart from prose. -/
inductive CodeKind
  | block
  | inline
deriving DecidableEq, Repr

namespace CodeKind

/-- The mark at both ends of the code. -/
def mark : CodeKind → Text
  | block => codeFence
  | inline => ['`']

/-- Code between its marks. -/
def wrap (kind : CodeKind) (code : Text) : Text := kind.mark ++ code ++ kind.mark

private theorem mark_ne_nil (kind : CodeKind) : kind.mark ≠ [] := by
  cases kind <;> simp [mark, codeFence]

theorem eq_tick_of_mem_mark {kind : CodeKind} {c : Char} (member : c ∈ kind.mark) : c = '`' := by
  cases kind <;> simpa [mark, codeFence] using member

end CodeKind

/-- The piece is an opening mark whose closing mark comes only in the text behind. -/
def Piece.IsClosedBy (more : Text) (piece : Piece) : Prop :=
  ∃ delimiter, piece.reading = .unclosed delimiter ∧ ¬ delimiter.Unclosed (piece.rest ++ more)

instance (more : Text) : DecidablePred (Piece.IsClosedBy more) := fun piece =>
  match reading : piece.reading with
  | .unclosed delimiter =>
      decidable_of_iff (¬ delimiter.Unclosed (piece.rest ++ more)) (by
        simp [Piece.IsClosedBy, reading])
  | .plain | .codeMark | .escape | .currency | .blank | .formula _ _ =>
      .isFalse (by simp [Piece.IsClosedBy, reading])

/-- Reading a text without backticks, as an induction: it stays in prose up to the end. -/
theorem prose_induction {motive : (text : Text) → '`' ∉ text → Prop}
    (ended : motive [] List.not_mem_nil)
    (piece : ∀ piece (noTick : '`' ∉ piece.taken ++ piece.rest) (rest : '`' ∉ piece.rest),
      Reads .prose piece → piece.next = .prose → motive piece.rest rest →
      motive (piece.taken ++ piece.rest) noTick)
    (text : Text) (noTick : '`' ∉ text) : motive text noTick := by
  have reading (mode : Mode) (start : mode = .prose) : motive text noTick := by
    induction mode, text using pieces.induct with
    | case1 mode text none =>
      subst start
      obtain rfl := read?_prose_eq_none_iff.mp none
      exact ended
    | case2 mode text first found ih =>
      subst start
      obtain ⟨rfl, reads⟩ := read?_eq_some_iff.mp found
      have rest : '`' ∉ first.rest := fun member => noTick (List.mem_append_right _ member)
      have next : first.next = .prose := by
        cases reads <;> simp_all [codeFence]
      exact piece first noTick rest reads next (ih rest next)
  exact reading .prose rfl

private theorem exists_of_mem_pieces {mode : Mode} {text : Text} {piece : Piece}
    (member : piece ∈ pieces mode text) :
    ∃ start gap, text = gap ++ (piece.taken ++ piece.rest) ∧ Reads start piece := by
  induction mode, text using pieces.induct with
  | case1 mode text none =>
    rw [pieces_of_read?_eq_none none] at member
    cases member
  | case2 mode text first found ih =>
    obtain ⟨rfl, reads⟩ := read?_eq_some_iff.mp found
    rw [pieces_of_read? found] at member
    rcases List.mem_cons.mp member with rfl | later
    · exact ⟨mode, [], rfl, reads⟩
    · obtain ⟨start, gap, rest, laterReads⟩ := ih later
      exact ⟨start, first.taken ++ gap, by rw [rest, List.append_assoc], laterReads⟩

private theorem modeBehind_pieces {text : Text} (noTick : '`' ∉ text) :
    modeBehind .prose (pieces .prose text) = .prose := by
  induction text, noTick using prose_induction with
  | ended =>
    rw [pieces_of_read?_eq_none rfl]
    rfl
  | piece piece _ _ reads next ih =>
    rw [pieces_of_read? (read?_of_reads reads), next]
    rw [modeBehind, List.foldl_cons, next]
    exact ih

/-- A piece that is a backslash alone ends the text. -/
theorem taken_ne_backslash {text : Text} (last : text.getLast? ≠ some '\\') {mode : Mode}
    {piece : Piece} (member : piece ∈ pieces mode text) (escape : piece.reading = .escape) :
    piece.taken ≠ ['\\'] := by
  intro alone
  obtain ⟨start, gap, rfl, reads⟩ := exists_of_mem_pieces member
  cases reads <;> simp_all

/-- A text without backticks is settled in front of another one that closes none of its marks. -/
theorem settledBefore_of_noTick {text more : Text} (noTick : '`' ∉ text)
    (last : text.getLast? ≠ some '\\')
    (open_ : ∀ piece ∈ pieces .prose text, ¬ piece.IsClosedBy more) :
    SettledBefore more .prose text where
  prose := modeBehind_pieces noTick
  unclosed piece member delimiter reading := by
    by_contra closed
    exact open_ piece member ⟨delimiter, reading, closed⟩
  tick tick := noTick (List.mem_of_getLast? tick)
  backslash _ member := taken_ne_backslash last member

/-- Where an opening mark does not stay open, the text splits at its closing mark, and no text behind
that opens it again. -/
theorem exists_of_not_unclosed {delimiter : Delimiter} {text : Text}
    (noDigit : delimiter = .inlineDollar → startsWithDigit text = false)
    (closed : ¬ delimiter.Unclosed text) :
    ∃ content after, text = content ++ delimiter.closer ++ after ∧
      (∀ more, ¬ delimiter.Unclosed (content ++ delimiter.closer ++ more)) ∧
      (content.isBlank = false → delimiter.Encloses content) := by
  by_cases single : delimiter = .inlineDollar
  · subst single
    have found : splitClosingDollar? '$' text ≠ none := fun missing =>
      closed ⟨splitClosingDollar?_eq_none_iff.mp missing, noDigit rfl⟩
    obtain ⟨⟨content, after⟩, split⟩ := Option.ne_none_iff_exists'.mp found
    obtain ⟨rfl, passes, last⟩ := splitClosingDollar?_eq_some_iff.mp split
    refine ⟨content, after, by simp [Delimiter.closer], ?_, ?_⟩
    · rintro more ⟨opened, -⟩
      have again : splitClosingDollar? '$' (content ++ '$' :: more) = some (content, more) :=
        splitClosingDollar?_eq_some_iff.mpr ⟨rfl, passes, last⟩
      rw [List.append_assoc, Delimiter.closer, List.singleton_append,
        ← splitClosingDollar?_eq_none_iff, again] at opened
      cases opened
    · intro filled
      have nonempty : content ≠ [] := by rintro rfl; cases filled
      refine ⟨filled, ?_, (Text.dollarsEscaped_iff (by decide)).mpr passes, ?_⟩
      · cases content with
        | nil => exact absurd rfl nonempty
        | cons first content => exact noDigit rfl
      · rwa [List.getLast?_cons_of_ne_nil nonempty] at last
  · have found := mt (Delimiter.unclosed_iff single).mpr closed
    obtain ⟨⟨content, after⟩, split⟩ := Option.ne_none_iff_exists'.mp found
    obtain ⟨whole, encloses⟩ := (Delimiter.splitFirst?_closer_eq_some_iff single).mp split
    refine ⟨content, after, whole, fun more opened => ?_, fun _ => encloses⟩
    have again : Text.splitFirst? delimiter.closer (content ++ delimiter.closer ++ more) =
        some (content, more) :=
      (Delimiter.splitFirst?_closer_eq_some_iff single).mpr ⟨rfl, encloses⟩
    rw [(Delimiter.unclosed_iff single).mp opened] at again
    cases again

/-- A mark of code does not complete a closing mark, since there is no backtick in any of these. -/
theorem mark_ne_closed {delimiter : Delimiter} {rest content : Text}
    (opened : delimiter.Unclosed rest)
    (stays : ∀ more, ¬ delimiter.Unclosed (content ++ delimiter.closer ++ more)) (kind : CodeKind)
    (gap : Text) : rest ++ kind.mark ≠ content ++ delimiter.closer ++ gap := by
  intro same
  rcases List.append_eq_append_iff.mp same with ⟨ticks, ends, marks⟩ | ⟨tail, front, -⟩
  · obtain rfl | ⟨init, last, rfl⟩ := List.eq_nil_or_concat ticks
    · refine stays [] ?_
      rwa [List.append_nil, ends, List.append_nil]
    · have inMark : last ∈ kind.mark := by simp [marks]
      obtain rfl := CodeKind.eq_tick_of_mem_mark inMark
      have lasts := congrArg List.getLast? ends
      cases delimiter <;> simp [Delimiter.closer] at lasts
  · exact stays tail (front ▸ opened)

/-- A mark that is closed only behind a mark of code encloses that mark. -/
theorem exists_crossing {delimiter : Delimiter} {rest more : Text} (kind : CodeKind)
    (opened : delimiter.Unclosed rest) (closed : ¬ delimiter.Unclosed (rest ++ (kind.mark ++ more))) :
    ∃ content after, rest ++ (kind.mark ++ more) = content ++ delimiter.closer ++ after ∧
      delimiter.Encloses content ∧
      (rest ++ kind.mark).length < (content ++ delimiter.closer).length := by
  have noDigit : delimiter = .inlineDollar →
      startsWithDigit (rest ++ (kind.mark ++ more)) = false := by
    rintro rfl
    cases rest with
    | nil => cases kind <;> rfl
    | cons first rest => exact opened.2
  have noTick : '`' ∉ delimiter.closer := by cases delimiter <;> simp [Delimiter.closer]
  obtain ⟨content, after, whole, stays, encloses⟩ := exists_of_not_unclosed noDigit closed
  have behind : ∃ inner, content ++ delimiter.closer = rest ++ kind.mark ++ inner ∧ inner ≠ [] := by
    rw [← List.append_assoc] at whole
    rcases List.append_eq_append_iff.mp whole with ⟨inner, crossing, -⟩ | ⟨gap, before, -⟩
    · refine ⟨inner, crossing, ?_⟩
      rintro rfl
      refine mark_ne_closed opened stays kind [] ?_
      rw [List.append_nil, crossing, List.append_nil]
    · exact absurd before (mark_ne_closed opened stays kind gap)
  obtain ⟨inner, crossing, nonempty⟩ := behind
  refine ⟨content, after, whole, encloses ?_, ?_⟩
  · obtain ⟨tick, member⟩ := List.exists_mem_of_ne_nil _ kind.mark_ne_nil
    obtain rfl := CodeKind.eq_tick_of_mem_mark member
    have inContent : '`' ∈ content ++ delimiter.closer := by simp [crossing, member]
    rw [List.mem_append, or_iff_left noTick] at inContent
    exact List.all_eq_false.mpr ⟨'`', inContent, by decide⟩
  · have positive := List.length_pos_iff.mpr nonempty
    simp only [crossing, List.length_append]
    omega

private theorem Reads.eq_unclosed {mode : Mode} {piece : Piece} {delimiter : Delimiter}
    (reads : Reads mode piece) (reading : piece.reading = .unclosed delimiter) :
    ∃ rest, delimiter.Unclosed rest ∧
      piece = ⟨delimiter.opener, rest, .prose, .unclosed delimiter⟩ := by
  cases reads <;> cases reading
  next rest opened => exact ⟨rest, opened, rfl⟩

/-- Formulas behind a piece are found behind it, with whatever ranks. -/
theorem exists_rank_behind {mode : Mode} {piece : Piece} (reads : Reads mode piece) (before : Text)
    (rank : Nat) :
    ∃ later, ∀ formula ∈ formulasFrom (before ++ piece.taken) later piece.next piece.rest,
      formula ∈ formulasFrom before rank mode (piece.taken ++ piece.rest) := by
  by_cases isFormula : ∃ delimiter content, piece.reading = .formula delimiter content
  · obtain ⟨delimiter, content, reading⟩ := isFormula
    cases reads <;> cases reading
    next rest encloses =>
    refine ⟨rank + 1, fun formula member => ?_⟩
    rw [formulasFrom_formula before rank rest encloses]
    exact List.mem_cons_of_mem _ member
  · simp only [not_exists] at isFormula
    refine ⟨rank, fun formula member => ?_⟩
    rwa [formulasFrom_other before rank reads isFormula]

/-- A mark that is closed only behind the mark of code begins a formula in the front text that ends
behind that mark. -/
theorem exists_crossing_formula {kind : CodeKind} {front more : Text} (noTick : '`' ∉ front)
    (last : front.getLast? ≠ some '\\') {piece : Piece} (member : piece ∈ pieces .prose front)
    (closed : piece.IsClosedBy (kind.mark ++ more)) (before : Text) (rank : Nat) :
    ∃ formula ∈ formulasFrom before rank .prose (front ++ (kind.mark ++ more)),
      formula.startOffset < (before ++ front).length ∧
        ((before ++ front ++ kind.mark).length : Int) < formula.endOffset := by
  -- Pieces in front of the first mark that is closed so late are read as they are without the code.
  induction front, noTick using prose_induction generalizing before rank with
  | ended =>
    rw [pieces_of_read?_eq_none rfl] at member
    cases member
  | piece first noTick _ reads next ih =>
    have here := pieces_of_read? (read?_of_reads reads)
    by_cases closedHere : first.IsClosedBy (kind.mark ++ more)
    · obtain ⟨delimiter, reading, closed⟩ := closedHere
      obtain ⟨rest, opened, rfl⟩ := reads.eq_unclosed reading
      obtain ⟨content, after, whole, encloses, longer⟩ := exists_crossing kind opened closed
      have split : delimiter.opener ++ rest ++ (kind.mark ++ more) =
          delimiter.wrap content ++ after := by
        rw [List.append_assoc, whole, Delimiter.wrap]
        simp only [List.append_assoc]
      have positive : 0 < delimiter.opener.length := by cases delimiter <;> simp [Delimiter.opener]
      rw [split, formulasFrom_formula _ _ _ encloses]
      refine ⟨_, List.mem_cons_self .., ?_, ?_⟩ <;>
        simp only [formulaAt, Delimiter.length_wrap, List.length_append] at longer ⊢ <;> omega
    · have later : piece ∈ pieces .prose first.rest := by
        rw [here, next] at member
        refine (List.mem_cons.mp member).resolve_left ?_
        rintro rfl
        exact closedHere closed
      have front : first ∈ pieces .prose (first.taken ++ first.rest) := by
        rw [here]
        exact List.mem_cons_self ..
      have unclosed : ∀ delimiter, first.reading = .unclosed delimiter →
          delimiter.Unclosed (first.rest ++ (kind.mark ++ more)) := by
        intro delimiter reading
        by_contra closed
        exact closedHere ⟨delimiter, reading, closed⟩
      have tick : (first.taken ++ first.rest).getLast? ≠ some '`' :=
        fun tick => noTick (List.mem_of_getLast? tick)
      have extended : Reads .prose { first with rest := first.rest ++ (kind.mark ++ more) } :=
        reads.extend unclosed tick (taken_ne_backslash last front)
      have lastRest : first.rest.getLast? ≠ some '\\' := by
        intro backslash
        refine last ?_
        rw [List.getLast?_append, backslash]
        rfl
      obtain ⟨laterRank, among⟩ := exists_rank_behind extended before rank
      obtain ⟨formula, listed, starts, ends⟩ := ih lastRest later (before ++ first.taken) laterRank
      rw [← next] at listed
      refine ⟨formula, ?_, ?_, ?_⟩
      · rw [List.append_assoc]
        exact among formula listed
      · rwa [List.append_assoc] at starts
      · rwa [List.append_assoc before] at ends

private theorem endOffset_le {before : Text} {first : Nat} {mode : Mode} {text : Text}
    {formula : Formula} (member : formula ∈ formulasFrom before first mode text) :
    formula.endOffset ≤ (before ++ text).length := by
  obtain ⟨index, found⟩ := List.mem_iff_getElem?.mp member
  obtain ⟨delimiter, gap, content, after, rfl, -, rfl⟩ := formulasFrom_getElem? found
  simp only [formulaAt, List.length_append]
  omega

/-- Code between its marks is passed over when reading comes to it in prose. -/
theorem formulasFrom_code (before : Text) (rank : Nat) (kind : CodeKind) {code behind : Text}
    (nonempty : code ≠ []) (noTick : '`' ∉ code)
    (alone : kind = .inline → behind.head? ≠ some '`') :
    formulasFrom before rank .prose (kind.wrap code ++ behind) =
      formulasFrom (before ++ kind.wrap code) rank .prose behind := by
  cases kind with
  | block =>
    exact formulasFrom_fence before rank (Text.endsFirst_of_notMem noTick) behind
  | inline =>
    have single : ¬ ['`', '`'] <+: behind := by
      cases behind with
      | nil => simp
      | cons first behind =>
        intro run
        exact alone rfl (by rw [(List.cons_prefix_cons.mp run).1]; rfl)
    have passed := formulasFrom_inlineCode before rank nonempty noTick single
    simpa [CodeKind.wrap, CodeKind.mark] using passed

/-- No formula has a character of the code in its span exactly when no opening mark in front of the
code, left open there, has its closing mark in the code or behind it. -/
theorem no_formula_overlaps_code_iff (kind : CodeKind) {front code behind : Text}
    (noTick : '`' ∉ front) (last : front.getLast? ≠ some '\\') (nonempty : code ≠ [])
    (noTickInCode : '`' ∉ code) (alone : kind = .inline → behind.head? ≠ some '`') :
    (∀ formula ∈ formulas (front ++ kind.wrap code ++ behind),
      ¬ formula.Overlaps (front ++ kind.mark).length (front ++ kind.mark ++ code).length) ↔
    ∀ piece ∈ pieces .prose front, ¬ piece.IsClosedBy (kind.wrap code ++ behind) := by
  have whole : front ++ kind.wrap code ++ behind =
      front ++ (kind.mark ++ (code ++ kind.mark ++ behind)) := by
    simp only [CodeKind.wrap, List.append_assoc]
  constructor
  · intro untouched piece member closed
    have behindMark : kind.wrap code ++ behind = kind.mark ++ (code ++ kind.mark ++ behind) := by
      simp only [CodeKind.wrap, List.append_assoc]
    rw [behindMark] at closed
    obtain ⟨formula, listed, starts, ends⟩ :=
      exists_crossing_formula noTick last member closed [] 0
    rw [← whole, ← formulas_eq_formulasFrom] at listed
    refine untouched formula listed ⟨?_, ?_⟩ <;>
      simp only [List.nil_append, List.length_append] at starts ends ⊢ <;> omega
  · intro pending formula listed overlaps
    have settled := settledBefore_of_noTick noTick last pending
    rw [formulas_eq_formulasFrom, List.append_assoc, settled.formulasFrom_append,
      formulasFrom_code _ _ kind nonempty noTickInCode alone] at listed
    obtain ⟨starts, ends⟩ := overlaps
    rcases List.mem_append.mp listed with inFront | inBehind
    · have stop := endOffset_le inFront
      simp only [List.nil_append, List.length_append] at stop ends
      omega
    · have start := le_startOffset inBehind
      simp only [CodeKind.wrap, List.nil_append, List.length_append] at start starts
      omega

/-- A mark that stays open all the same, an amount and a formula, in front of inline code. -/
theorem no_formula_overlaps_code_iff_pending :
    let front := "\\( $5 or $x$ ".toList
    let code := "$y$ \\[".toList
    let behind := " $z$ \\]".toList
    '`' ∉ front ∧ front.getLast? ≠ some '\\' ∧ code ≠ [] ∧ '`' ∉ code ∧
      behind.head? ≠ some '`' ∧
      (∀ piece ∈ pieces .prose front, ¬ piece.IsClosedBy (CodeKind.inline.wrap code ++ behind)) ∧
      ∀ formula ∈ formulas (front ++ CodeKind.inline.wrap code ++ behind),
        ¬ formula.Overlaps (front ++ ['`']).length (front ++ ['`'] ++ code).length := by
  have pending : ∀ piece ∈ pieces .prose "\\( $5 or $x$ ".toList,
      ¬ piece.IsClosedBy (CodeKind.inline.wrap "$y$ \\[".toList ++ " $z$ \\]".toList) := by
    decide +kernel
  refine ⟨by decide, by decide, by decide, by decide, by decide, pending, ?_⟩
  exact (no_formula_overlaps_code_iff .inline (by decide) (by decide) (by decide) (by decide)
    fun _ => by decide).mpr pending

/-- A dollar sign in front of a code block, without a closing one there, takes the code up to a dollar
sign in it for a formula. -/
theorem formula_overlaps_code_behind_dollar :
    ¬ ∀ (kind : CodeKind) (front code behind : Text),
        '`' ∉ front → front.getLast? ≠ some '\\' → code ≠ [] → '`' ∉ code →
        (kind = .inline → behind.head? ≠ some '`') →
        ∀ formula ∈ formulas (front ++ kind.wrap code ++ behind),
          ¬ formula.Overlaps (front ++ kind.mark).length (front ++ kind.mark ++ code).length := by
  intro untouched
  have here := untouched .block "5 $ a piece:\n".toList "\necho $HOME\n".toList "\n".toList
    (by decide) (by decide) (by decide) (by decide) (by decide)
  exact absurd here (by decide +kernel)

end Scan

end FormulaRepair
