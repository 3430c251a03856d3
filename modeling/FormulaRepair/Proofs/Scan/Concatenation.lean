import FormulaRepair.Proofs.Scan.Spans

/-! # Scanning one text behind another

A text is self-contained when reading it leaves nothing open: it ends in prose, every mark that it
opens it closes, and its last character cannot join up with the first ones of a following text. Each
of its pieces is then read in the same way whatever comes behind, so that scanning goes on with the
following text as if that stood alone, with other ranks, places and lines.
-/

namespace FormulaRepair.Scan

/-- Was an opening mark read whose closing mark never comes? -/
def Reading.IsUnclosed : Reading → Prop
  | .unclosed _ => True
  | _ => False

instance : DecidablePred Reading.IsUnclosed
  | .unclosed _ => .isTrue trivial
  | .plain | .codeMark | .escape | .currency | .blank | .formula _ _ => .isFalse id

/-- The mode in which reading goes on behind pieces. -/
def modeBehind (mode : Mode) (pieces : List Piece) : Mode :=
  pieces.foldl (fun _ piece => piece.next) mode

/-- Reading that starts in the given mode leaves nothing open at the end of the text. -/
structure ClosedFrom (mode : Mode) (text : Text) : Prop where
  prose : modeBehind mode (pieces mode text) = .prose
  closed : ∀ piece ∈ pieces mode text, ¬ piece.reading.IsUnclosed
  tick : text.getLast? ≠ some '`'
  backslash : ∀ piece ∈ pieces mode text, piece.reading = .escape → piece.taken ≠ ['\\']

instance (mode : Mode) (text : Text) : Decidable (ClosedFrom mode text) :=
  decidable_of_iff
    (modeBehind mode (pieces mode text) = .prose ∧
      (∀ piece ∈ pieces mode text, ¬ piece.reading.IsUnclosed) ∧ text.getLast? ≠ some '`' ∧
      ∀ piece ∈ pieces mode text, piece.reading = .escape → piece.taken ≠ ['\\'])
    ⟨fun ⟨prose, closed, tick, backslash⟩ => ⟨prose, closed, tick, backslash⟩,
      fun ⟨prose, closed, tick, backslash⟩ => ⟨prose, closed, tick, backslash⟩⟩

/-- A text that can be followed by any other: it ends outside of code, each opening mark found its
closing mark, and at the end stands neither a backtick nor a backslash that escapes nothing. -/
abbrev SelfContained (text : Text) : Prop := ClosedFrom .prose text

/-- In front of more text, a text is read as it is when it stands alone: it ends in prose, no mark that
stays open in it is closed behind it, and its last character does not join up with what follows. -/
structure SettledBefore (more : Text) (mode : Mode) (text : Text) : Prop where
  prose : modeBehind mode (pieces mode text) = .prose
  unclosed : ∀ piece ∈ pieces mode text, ∀ delimiter,
    piece.reading = .unclosed delimiter → delimiter.Unclosed (piece.rest ++ more)
  tick : text.getLast? ≠ some '`'
  backslash : ∀ piece ∈ pieces mode text, piece.reading = .escape → piece.taken ≠ ['\\']

/-- A text that leaves nothing open is settled in front of any other. -/
theorem ClosedFrom.settledBefore {mode : Mode} {text : Text} (closed : ClosedFrom mode text)
    (more : Text) : SettledBefore more mode text where
  prose := closed.prose
  unclosed piece member delimiter reading := by
    refine absurd ?_ (closed.closed piece member)
    rw [reading]
    trivial
  tick := closed.tick
  backslash := closed.backslash

/-- Behind a piece, the rest of the text is settled as well. -/
theorem SettledBefore.rest {more : Text} {mode : Mode} {piece : Piece} (reads : Reads mode piece)
    (settled : SettledBefore more mode (piece.taken ++ piece.rest)) :
    SettledBefore more piece.next piece.rest := by
  obtain ⟨prose, unclosed, tick, backslash⟩ := settled
  rw [pieces_of_read? (read?_of_reads reads)] at prose unclosed backslash
  refine ⟨prose, (List.forall_mem_cons.mp unclosed).2, fun last => tick ?_,
    (List.forall_mem_cons.mp backslash).2⟩
  rw [List.getLast?_append, last]
  rfl

/-- A run of backticks that begins behind a text which does not end in one does not begin in it. -/
private theorem ticks_prefix_append_iff {rest : Text} (last : ('`' :: rest).getLast? ≠ some '`')
    (more : Text) : ['`', '`'] <+: rest ++ more ↔ ['`', '`'] <+: rest := by
  match rest with
  | [] => exact absurd rfl last
  | [only] =>
    have other : only ≠ '`' := by
      rintro rfl
      exact last rfl
    simp [List.cons_prefix_cons, other.symm]
  | first :: second :: rest => simp [List.cons_prefix_cons]

/-- A piece is read in front of a longer text as well, unless that closes the mark that it left open
or joins up with its last character. -/
theorem Reads.extend {mode : Mode} {piece : Piece} (reads : Reads mode piece) {more : Text}
    (unclosed : ∀ delimiter, piece.reading = .unclosed delimiter →
      delimiter.Unclosed (piece.rest ++ more))
    (tick : (piece.taken ++ piece.rest).getLast? ≠ some '`')
    (backslash : piece.reading = .escape → piece.taken ≠ ['\\']) :
    Reads mode { piece with rest := piece.rest ++ more } := by
  cases reads with
  | openFence rest => exact .openFence _
  | openTick rest alone => exact .openTick _ (mt (ticks_prefix_append_iff tick more).mp alone)
  | lastBackslash => exact absurd rfl (backslash rfl)
  | escape rest ordinary => exact .escape _ ordinary
  | unclosed => exact .unclosed _ (unclosed _ rfl)
  | formula rest encloses => exact .formula _ encloses
  | currency rest digit =>
    cases rest with
    | nil => cases digit
    | cons first rest => exact .currency _ digit
  | blank rest blank nonempty => exact .blank _ blank nonempty
  | plain rest notTick notBackslash notDollar => exact .plain _ notTick notBackslash notDollar
  | closeFence rest => exact .closeFence _
  | fencedCode rest nonempty first fence =>
    exact .fencedCode _ nonempty first (fence.trans (List.prefix_append rest more))
  | tickRun rest run => exact .tickRun _ (run.trans (List.prefix_append rest more))
  | closeTick rest alone => exact .closeTick _ (mt (ticks_prefix_append_iff tick more).mp alone)
  | inlineCode rest nonempty noTick mark =>
    exact .inlineCode _ nonempty noTick (mark.trans (List.prefix_append rest more))

/-- The first piece of a settled text is read in front of the longer text as well. -/
theorem SettledBefore.reads {more : Text} {mode : Mode} {piece : Piece} (reads : Reads mode piece)
    (settled : SettledBefore more mode (piece.taken ++ piece.rest)) :
    Reads mode { piece with rest := piece.rest ++ more } := by
  have member : piece ∈ pieces mode (piece.taken ++ piece.rest) := by
    rw [pieces_of_read? (read?_of_reads reads)]
    exact List.mem_cons_self ..
  exact reads.extend (settled.unclosed piece member) settled.tick (settled.backslash piece member)

theorem read?_prose_eq_none_iff {text : Text} : read? .prose text = none ↔ text = [] := by
  constructor
  · intro ended
    change readProse text = none at ended
    unfold readProse at ended
    split at ended
    · rfl
    · split at ended <;> cases ended
    all_goals cases ended
  · rintro rfl
    rfl

/-- Reading goes on in prose behind a settled text. -/
theorem SettledBefore.formulasFrom_append {more : Text} {mode : Mode} {text : Text}
    (settled : SettledBefore more mode text) (before : Text) (rank : Nat) :
    formulasFrom before rank mode (text ++ more) =
      formulasFrom before rank mode text ++
        formulasFrom (before ++ text) (rank + (formulasFrom before rank mode text).length) .prose
          more := by
  -- Along the reading of the front text, each piece of which is read in front of the longer one too.
  induction mode, text using reading_induction generalizing before rank with
  | ended mode text ended =>
    have prose := settled.prose
    rw [pieces_of_read?_eq_none ended] at prose
    obtain rfl : mode = .prose := prose
    obtain rfl := read?_prose_eq_none_iff.mp ended
    rw [formulasFrom_end _ _ ended]
    simp
  | formula delimiter content rest encloses ih =>
    have later := settled.rest (.formula rest encloses)
    rw [List.append_assoc, formulasFrom_formula _ _ _ encloses, formulasFrom_formula _ _ _ encloses,
      ih later, List.length_cons, List.append_assoc, Nat.add_right_comm, ← Nat.add_assoc]
    rfl
  | other mode piece reads other ih =>
    have step := formulasFrom_other before rank (settled.reads reads) other
    rw [List.append_assoc, step, formulasFrom_other before rank reads other,
      ih (settled.rest reads), List.append_assoc]

/-- Reading goes on in prose behind a text that leaves nothing open. -/
theorem formulasFrom_append {mode : Mode} {text : Text} (closed : ClosedFrom mode text)
    (more before : Text) (rank : Nat) :
    formulasFrom before rank mode (text ++ more) =
      formulasFrom before rank mode text ++
        formulasFrom (before ++ text) (rank + (formulasFrom before rank mode text).length) .prose
          more :=
  (closed.settledBefore more).formulasFrom_append before rank

/-- The formula in a document with another text in front, where it has the given rank. -/
def movedBehind (front : Text) (rank : Nat) (formula : Formula) : Formula :=
  { formula with
    id := formulaId rank
    startOffset := front.length + formula.startOffset
    endOffset := front.length + formula.endOffset
    lineNumber := front.newlines + formula.lineNumber }

/-- A text in front moves all formulas, and changes nothing else about them. -/
theorem formulasFrom_behind (front before : Text) (first rank : Nat) (mode : Mode) (text : Text) :
    formulasFrom (front ++ before) (first + rank) mode text =
      (formulasFrom before rank mode text).mapIdx fun index =>
        movedBehind front (first + rank + index) := by
  induction mode, text using reading_induction generalizing before rank with
  | ended mode text ended =>
    rw [formulasFrom_end _ _ ended, formulasFrom_end _ _ ended, List.mapIdx_nil]
  | formula delimiter content rest encloses ih =>
    have here : formulaAt (front ++ before) (first + rank) delimiter content =
        movedBehind front (first + rank) (formulaAt before rank delimiter content) := by
      simp only [formulaAt, movedBehind, List.length_append, Text.newlines_append, Nat.add_assoc,
        Int.natCast_add]
    have later := ih (before ++ delimiter.wrap content) (rank + 1)
    rw [formulasFrom_formula _ _ rest encloses, formulasFrom_formula _ _ rest encloses,
      List.mapIdx_cons, here, List.append_assoc]
    refine congrArg (List.cons _) (later.trans ?_)
    simp only [Nat.add_assoc, Nat.add_comm 1]
  | other mode piece reads other ih =>
    rw [formulasFrom_other _ _ reads other, formulasFrom_other _ _ reads other, List.append_assoc]
    exact ih _ _

/-- Scanning is compositional. Behind a self-contained text, any other text has the formulas that it
has when it stands alone: with the ranks that follow those of the front text, and as many characters
and lines farther on as that has. -/
theorem formulas_append {front : Text} (selfContained : SelfContained front) (text : Text) :
    formulas (front ++ text) =
      formulas front ++ (formulas text).mapIdx fun index =>
        movedBehind front ((formulas front).length + index) := by
  have behind := formulasFrom_behind front [] (formulas front).length 0 .prose text
  rw [List.append_nil, Nat.add_zero] at behind
  rw [formulas_eq_formulasFrom (front ++ text), formulasFrom_append selfContained,
    formulas_eq_formulasFrom text, ← formulas_eq_formulasFrom front, Nat.zero_add, List.nil_append,
    behind]

/-- A text with every kind of code, escape, amount and formula. -/
def settled : Text := "`$` $5 \\$ $x$\n```\n$y$\n``` \\[z\\] $ $\n".toList

/-- A text with marks that stay open, around formulas. -/
def unsettled : Text := "`` \\( $$v$$\n$w$ ``` $u$ $".toList

theorem formulas_append_settled :
    SelfContained settled ∧
      formulas (settled ++ unsettled) =
        (formulas settled ++ (formulas unsettled).mapIdx fun index =>
          movedBehind settled ((formulas settled).length + index)) ∧
      (formulas (settled ++ unsettled)).map Formula.lineNumber = [1, 4, 5, 6] :=
  have selfContained : SelfContained settled := by decide +kernel
  ⟨selfContained, formulas_append selfContained unsettled, by decide +kernel⟩

end FormulaRepair.Scan
