import FormulaRepair.Proofs.Scan.Search
import FormulaRepair.Scan.Piece

/-! # What a piece says about the text

One step of reading is described here without any search. A piece that was closed depends on nothing
behind it. The others look ahead, and only for this much: the next characters, a mark of code, or
the absence of a closing mark. `read?_eq_some_iff` says that reading takes off exactly the pieces so
described; all further facts about scanning rest on it.
-/

namespace FormulaRepair

/-- Every dollar sign of the text stands directly behind a backslash of the text. -/
def Text.DollarsEscaped (text : Text) : Prop :=
  ∀ before after, text = before ++ '$' :: after → before.getLast? = some '\\'

namespace Delimiter

/-- A search for the closing mark does not end at these neighbours. A single dollar sign closes when
no backslash stands before it, the other marks when both characters are theirs. -/
def Passes : Delimiter → Char → Char → Prop
  | inlineDollar => fun a b => b = '$' → a = '\\'
  | blockDollar => Text.Apart '$' '$'
  | inlineParen => Text.Apart '\\' ')'
  | blockBracket => Text.Apart '\\' ']'

instance (delimiter : Delimiter) : DecidableRel delimiter.Passes := fun a b =>
  match delimiter with
  | inlineDollar => inferInstanceAs (Decidable (b = '$' → a = '\\'))
  | blockDollar => inferInstanceAs (Decidable (Text.Apart '$' '$' a b))
  | inlineParen => inferInstanceAs (Decidable (Text.Apart '\\' ')' a b))
  | blockBracket => inferInstanceAs (Decidable (Text.Apart '\\' ']' a b))

/-- The closing mark behind the content is the first one behind the opening mark, and the content
makes a formula. -/
def Encloses (delimiter : Delimiter) (content : Text) : Prop :=
  match delimiter with
  | inlineDollar =>
      content.isBlank = false ∧ Scan.startsWithDigit content = false ∧ content.DollarsEscaped ∧
        content.getLast? ≠ some '\\'
  | other => Text.EndsFirst other.closer content

/-- What follows an opening mark holds no closing mark, and is not the digit of an amount. -/
def Unclosed (delimiter : Delimiter) (text : Text) : Prop :=
  match delimiter with
  | inlineDollar => ('$' :: text).IsChain inlineDollar.Passes ∧ Scan.startsWithDigit text = false
  | other => text.IsChain other.Passes

/-- A mark of two characters stays open where a search for the closing mark fails. -/
theorem unclosed_iff {delimiter : Delimiter} (double : delimiter ≠ inlineDollar) {text : Text} :
    delimiter.Unclosed text ↔ Text.splitFirst? delimiter.closer text = none := by
  cases delimiter with
  | inlineDollar => exact absurd rfl double
  | blockDollar | inlineParen | blockBracket => exact Text.splitFirst?_pair_eq_none_iff.symm

/-- A mark of two characters encloses what a search for the closing mark finds in front of it. -/
theorem splitFirst?_closer_eq_some_iff {delimiter : Delimiter} (double : delimiter ≠ inlineDollar)
    {text content after : Text} :
    Text.splitFirst? delimiter.closer text = some (content, after) ↔
      text = content ++ delimiter.closer ++ after ∧ delimiter.Encloses content := by
  cases delimiter with
  | inlineDollar => exact absurd rfl double
  | blockDollar | inlineParen | blockBracket => exact Text.splitFirst?_eq_some_iff

end Delimiter

/-- Behind a character other than a backslash, escaped dollar signs are those that no search for a
closing dollar sign ends at. -/
theorem Text.dollarsEscaped_iff {previous : Char} (plain : previous ≠ '\\') {text : Text} :
    text.DollarsEscaped ↔ (previous :: text).IsChain Delimiter.inlineDollar.Passes := by
  rw [List.isChain_iff_forall_rel_of_append_cons_cons]
  constructor
  · rintro escaped a b before after same rfl
    cases before with
    | nil =>
      obtain ⟨-, whole⟩ := List.cons.inj same
      cases escaped [] after whole
    | cons head before =>
      obtain ⟨-, whole⟩ := List.cons.inj same
      have last := escaped (before ++ [a]) after (by simpa using whole)
      simpa using last
  · rintro passes before after rfl
    obtain rfl | ⟨init, last, rfl⟩ := List.eq_nil_or_concat before
    · exact absurd (@passes previous '$' [] after rfl rfl) plain
    · have escaped := @passes last '$' (previous :: init) after (by simp) rfl
      simp [escaped]

instance (text : Text) : Decidable text.DollarsEscaped :=
  decidable_of_iff (('$' :: text).IsChain Delimiter.inlineDollar.Passes)
    (Text.dollarsEscaped_iff (by decide)).symm

instance (delimiter : Delimiter) (content : Text) : Decidable (delimiter.Encloses content) :=
  match delimiter with
  | .inlineDollar => inferInstanceAs (Decidable (content.isBlank = false ∧
      Scan.startsWithDigit content = false ∧ content.DollarsEscaped ∧
        content.getLast? ≠ some '\\'))
  | .blockDollar | .inlineParen | .blockBracket =>
      inferInstanceAs (Decidable (Text.EndsFirst _ content))

namespace Scan

/-- A search for a closing dollar sign stops at the first one that no backslash precedes. -/
theorem splitClosingDollar?_eq_some_iff {previous : Char} {text before after : Text} :
    splitClosingDollar? previous text = some (before, after) ↔
      text = before ++ '$' :: after ∧
        (previous :: before).IsChain Delimiter.inlineDollar.Passes ∧
        (previous :: before).getLast? ≠ some '\\' := by
  induction text generalizing previous before with
  | nil => simp [splitClosingDollar?]
  | cons first text ih =>
    rw [splitClosingDollar?]
    split
    · next closing =>
      obtain ⟨rfl, plain⟩ := closing
      simp only [Option.some.injEq, Prod.mk.injEq]
      constructor
      · rintro ⟨rfl, rfl⟩
        exact ⟨rfl, List.isChain_singleton _, by simpa using plain⟩
      · rintro ⟨whole, passes, -⟩
        cases before with
        | nil => exact ⟨rfl, (List.cons.inj whole).2⟩
        | cons head before =>
          obtain ⟨rfl, -⟩ := List.cons.inj whole
          exact absurd ((List.isChain_cons_cons.mp passes).1 rfl) plain
    · next passing =>
      have passed : Delimiter.inlineDollar.Passes previous first := by
        intro dollar
        by_contra plain
        exact passing ⟨dollar, plain⟩
      simp only [Option.map_eq_some_iff, Prod.mk.injEq]
      constructor
      · rintro ⟨⟨inner, tail⟩, later, rfl, rfl⟩
        obtain ⟨whole, passes, last⟩ := ih.mp later
        exact ⟨by rw [whole]; rfl, passes.cons_cons passed, by simpa using last⟩
      · rintro ⟨whole, passes, last⟩
        cases before with
        | nil =>
          obtain ⟨rfl, -⟩ := List.cons.inj whole
          exact absurd ⟨rfl, by simpa using last⟩ passing
        | cons head before =>
          obtain ⟨rfl, rest⟩ := List.cons.inj whole
          have later := ih.mpr ⟨rest, (List.isChain_cons_cons.mp passes).2, by simpa using last⟩
          exact ⟨(before, after), later, rfl, rfl⟩

theorem splitClosingDollar?_eq_none_iff {previous : Char} {text : Text} :
    splitClosingDollar? previous text = none ↔
      (previous :: text).IsChain Delimiter.inlineDollar.Passes := by
  induction text generalizing previous with
  | nil => simp [splitClosingDollar?]
  | cons first text ih =>
    rw [splitClosingDollar?, List.isChain_cons_cons, ← ih]
    split
    · next closing => simp [Delimiter.Passes, closing]
    · next passing =>
      have passed : Delimiter.inlineDollar.Passes previous first := by
        intro dollar
        by_contra plain
        exact passing ⟨dollar, plain⟩
      simp [passed]

/-- The pieces that reading takes off in each mode. -/
inductive Reads : Mode → Piece → Prop
  | openFence (rest : Text) : Reads .prose ⟨codeFence, rest, .fenced, .codeMark⟩
  | openTick (rest : Text) : ¬ ['`', '`'] <+: rest →
      Reads .prose ⟨['`'], rest, .inlineCode, .codeMark⟩
  | lastBackslash : Reads .prose ⟨['\\'], [], .prose, .escape⟩
  | escape {escaped : Char} (rest : Text) : bracketDelimiter? escaped = none →
      Reads .prose ⟨['\\', escaped], rest, .prose, .escape⟩
  | unclosed {delimiter : Delimiter} (rest : Text) : delimiter.Unclosed rest →
      Reads .prose ⟨delimiter.opener, rest, .prose, .unclosed delimiter⟩
  | formula {delimiter : Delimiter} {content : Text} (rest : Text) : delimiter.Encloses content →
      Reads .prose ⟨delimiter.wrap content, rest, .prose, .formula delimiter content⟩
  | currency (rest : Text) : startsWithDigit rest = true →
      Reads .prose ⟨['$'], rest, .prose, .currency⟩
  | blank {content : Text} (rest : Text) : content.isBlank = true → content ≠ [] →
      Reads .prose ⟨Delimiter.inlineDollar.wrap content, rest, .prose, .blank⟩
  | plain {first : Char} (rest : Text) : first ≠ '`' → first ≠ '\\' → first ≠ '$' →
      Reads .prose ⟨[first], rest, .prose, .plain⟩
  | closeFence (rest : Text) : Reads .fenced ⟨codeFence, rest, .prose, .codeMark⟩
  | fencedCode {code : Text} (rest : Text) : code ≠ [] → Text.EndsFirst codeFence code →
      codeFence <+: rest → Reads .fenced ⟨code, rest, .fenced, .plain⟩
  | tickRun (rest : Text) : ['`', '`'] <+: rest →
      Reads .inlineCode ⟨['`'], rest, .inlineCode, .plain⟩
  | closeTick (rest : Text) : ¬ ['`', '`'] <+: rest →
      Reads .inlineCode ⟨['`'], rest, .prose, .codeMark⟩
  | inlineCode {code : Text} (rest : Text) : code ≠ [] → '`' ∉ code → ['`'] <+: rest →
      Reads .inlineCode ⟨code, rest, .inlineCode, .plain⟩

theorem bracketDelimiter?_eq_some_iff {escaped : Char} {delimiter : Delimiter} :
    bracketDelimiter? escaped = some delimiter ↔ delimiter.opener = ['\\', escaped] := by
  unfold bracketDelimiter?
  split <;> cases delimiter <;> simp_all [Delimiter.opener, eq_comm]

theorem isSome_dropPrefix?_codeFence_iff {rest : Text} :
    (Text.dropPrefix? codeFence ('`' :: rest)).isSome = true ↔ ['`', '`'] <+: rest := by
  rw [Text.isSome_dropPrefix?_iff, codeFence, List.cons_prefix_cons, and_iff_right rfl]

private theorem reads_fenced {text : Text} {piece : Piece} (found : readFenced text = some piece) :
    Reads .fenced piece := by
  unfold readFenced at found
  split at found
  · cases found
    exact .closeFence _
  · next notHere =>
    simp only [Option.map_eq_some_iff] at found
    obtain ⟨⟨code, after⟩, split, rfl⟩ := found
    obtain ⟨rfl, first⟩ := Text.splitFirst?_eq_some_iff.mp split
    refine .fencedCode _ ?_ first (List.prefix_append codeFence after)
    rintro rfl
    exact Text.dropPrefix?_eq_none_iff.mp notHere (by simp)

private theorem reads_inlineCode {text : Text} {piece : Piece}
    (found : readInlineCode text = some piece) : Reads .inlineCode piece := by
  unfold readInlineCode at found
  split at found
  · simp only [isSome_dropPrefix?_codeFence_iff] at found
    split at found
    · next run => cases found; exact .tickRun _ run
    · next alone => cases found; exact .closeTick _ alone
  · next notHere =>
    simp only [Option.map_eq_some_iff] at found
    obtain ⟨⟨code, after⟩, split, rfl⟩ := found
    obtain ⟨rfl, first⟩ := Text.splitFirst?_eq_some_iff.mp split
    refine .inlineCode _ ?_ (Text.endsFirst_singleton_iff.mp first) (List.prefix_append ['`'] after)
    rintro rfl
    exact notHere after rfl

private theorem reads_backslash (rest : Text) : Reads .prose (readBackslash rest) := by
  unfold readBackslash
  split
  · exact .lastBackslash
  · split
    · next ordinary => exact .escape _ ordinary
    · next delimiter bracket =>
      have mark := bracketDelimiter?_eq_some_iff.mp bracket
      have double : delimiter ≠ .inlineDollar := by rintro rfl; cases mark
      split
      · next missing =>
        rw [← mark]
        exact .unclosed _ ((Delimiter.unclosed_iff double).mpr missing)
      · next content after split =>
        obtain ⟨-, encloses⟩ := (Delimiter.splitFirst?_closer_eq_some_iff double).mp split
        have reads := Reads.formula after encloses
        rwa [Delimiter.wrap, mark] at reads

private theorem reads_dollar (rest : Text) : Reads .prose (readDollar rest) := by
  unfold readDollar
  split
  · split
    · next missing => exact .unclosed _ ((Delimiter.unclosed_iff (by decide)).mpr missing)
    · next content after split =>
      exact .formula after ((Delimiter.splitFirst?_closer_eq_some_iff (by decide)).mp split).2
  · next single =>
    split
    · next digit => exact .currency _ digit
    · next noDigit =>
      split
      · next missing =>
        have opened : Delimiter.inlineDollar.Unclosed rest :=
          ⟨splitClosingDollar?_eq_none_iff.mp missing, Bool.eq_false_iff.mpr noDigit⟩
        exact .unclosed _ opened
      · next content after split =>
        obtain ⟨rfl, passes, last⟩ := splitClosingDollar?_eq_some_iff.mp split
        have nonempty : content ≠ [] := by
          rintro rfl
          exact single after rfl
        split
        · next blank => exact .blank after blank nonempty
        · next filled =>
          refine .formula after ⟨Bool.eq_false_iff.mpr filled, ?_,
            (Text.dollarsEscaped_iff (by decide)).mpr passes, ?_⟩
          · cases content with
            | nil => exact absurd rfl nonempty
            | cons first content => exact Bool.eq_false_iff.mpr noDigit
          · rwa [List.getLast?_cons_of_ne_nil nonempty] at last

private theorem reads_prose {text : Text} {piece : Piece} (found : readProse text = some piece) :
    Reads .prose piece := by
  unfold readProse at found
  split at found
  · cases found
  · next rest =>
    split at found
    · cases found; exact .openFence _
    · next notHere =>
      cases found
      refine .openTick _ fun run => ?_
      rw [← isSome_dropPrefix?_codeFence_iff, notHere] at run
      cases run
  · cases found; exact reads_backslash _
  · cases found; exact reads_dollar _
  · next tick backslash dollar =>
    cases found
    refine .plain _ ?_ ?_ ?_
    · rintro rfl; exact tick rfl
    · rintro rfl; exact backslash rfl
    · rintro rfl; exact dollar rfl

/-- Reading takes off a piece of the described kind. -/
theorem reads_of_read? {mode : Mode} {text : Text} {piece : Piece}
    (found : read? mode text = some piece) : Reads mode piece := by
  cases mode with
  | prose => exact reads_prose found
  | fenced => exact reads_fenced found
  | inlineCode => exact reads_inlineCode found

/-- Behind an opening mark of two characters, reading goes by the search for the closing mark. -/
private theorem read?_opener {delimiter : Delimiter} (double : delimiter ≠ .inlineDollar)
    (rest : Text) :
    read? .prose (delimiter.opener ++ rest) =
      some (match Text.splitFirst? delimiter.closer rest with
        | none => ⟨delimiter.opener, rest, .prose, .unclosed delimiter⟩
        | some (content, after) =>
            ⟨delimiter.wrap content, after, .prose, .formula delimiter content⟩) := by
  cases delimiter with
  | inlineDollar => exact absurd rfl double
  | blockDollar | inlineParen | blockBracket => rfl

theorem readDollar_single {rest : Text} (single : rest.head? ≠ some '$') :
    readDollar rest =
      if startsWithDigit rest then ⟨['$'], rest, .prose, .currency⟩
      else
        match splitClosingDollar? '$' rest with
        | none => ⟨['$'], rest, .prose, .unclosed .inlineDollar⟩
        | some (content, after) =>
            ⟨Delimiter.inlineDollar.wrap content, after, .prose,
              if content.isBlank then .blank else .formula .inlineDollar content⟩ := by
  unfold readDollar
  split
  · exact absurd rfl single
  · rfl

private theorem startsWithDigit_append {content rest : Text} (nonempty : content ≠ []) :
    startsWithDigit (content ++ rest) = startsWithDigit content := by
  cases content with
  | nil => exact absurd rfl nonempty
  | cons first content => rfl

/-- Content between single dollar signs is read as far as its closing dollar sign. -/
private theorem readDollar_content {content rest : Text} (nonempty : content ≠ [])
    (noDigit : startsWithDigit content = false) (escaped : content.DollarsEscaped)
    (last : content.getLast? ≠ some '\\') :
    readDollar (content ++ '$' :: rest) =
      ⟨Delimiter.inlineDollar.wrap content, rest, .prose,
        if content.isBlank then .blank else .formula .inlineDollar content⟩ := by
  have single : (content ++ '$' :: rest).head? ≠ some '$' := by
    cases content with
    | nil => exact absurd rfl nonempty
    | cons first content =>
      intro dollar
      simp only [List.cons_append, List.head?_cons, Option.some.injEq] at dollar
      cases escaped [] content (by rw [dollar]; rfl)
  have split : splitClosingDollar? '$' (content ++ '$' :: rest) = some (content, rest) := by
    refine splitClosingDollar?_eq_some_iff.mpr ⟨rfl, ?_, ?_⟩
    · exact (Text.dollarsEscaped_iff (by decide)).mp escaped
    · rwa [List.getLast?_cons_of_ne_nil nonempty]
  rw [readDollar_single single, startsWithDigit_append nonempty, noDigit, split]
  rfl

private theorem read?_unclosed {delimiter : Delimiter} {rest : Text}
    (unclosed : delimiter.Unclosed rest) :
    read? .prose (delimiter.opener ++ rest) =
      some ⟨delimiter.opener, rest, .prose, .unclosed delimiter⟩ := by
  by_cases single : delimiter = .inlineDollar
  · subst single
    obtain ⟨passes, noDigit⟩ := unclosed
    have head : rest.head? ≠ some '$' := by
      intro dollar
      exact absurd (passes.rel_head? dollar rfl) (by decide)
    have missing := splitClosingDollar?_eq_none_iff.mpr passes
    change some (readDollar rest) = _
    rw [readDollar_single head, noDigit, missing]
    rfl
  · rw [read?_opener single, (Delimiter.unclosed_iff single).mp unclosed]

private theorem read?_formula {delimiter : Delimiter} {content : Text} (rest : Text)
    (encloses : delimiter.Encloses content) :
    read? .prose (delimiter.wrap content ++ rest) =
      some ⟨delimiter.wrap content, rest, .prose, .formula delimiter content⟩ := by
  rw [Delimiter.wrap, List.append_assoc, List.append_assoc]
  by_cases single : delimiter = .inlineDollar
  · subst single
    obtain ⟨filled, noDigit, escaped, last⟩ := encloses
    have nonempty : content ≠ [] := by rintro rfl; cases filled
    change some (readDollar (content ++ '$' :: rest)) = _
    rw [readDollar_content nonempty noDigit escaped last, filled]
    rfl
  · have split : Text.splitFirst? delimiter.closer (content ++ (delimiter.closer ++ rest)) =
        some (content, rest) :=
      (Delimiter.splitFirst?_closer_eq_some_iff single).mpr
        ⟨(List.append_assoc ..).symm, encloses⟩
    rw [read?_opener single, split]
    simp [Delimiter.wrap]

private theorem isBlank_eq_false_of_isDigit {c : Char} (digit : c.isDigit = true) :
    isBlank c = false := by
  have zero : '0'.val.toNat = 48 := rfl
  have nine : '9'.val.toNat = 57 := rfl
  simp only [Char.isDigit, Bool.and_eq_true, decide_eq_true_eq, UInt32.le_iff_toNat_le] at digit
  simp only [isBlank, Bool.or_eq_false_iff, Bool.and_eq_false_iff, decide_eq_false_iff_not,
    beq_eq_false_iff_ne, Char.toNat]
  omega

private theorem not_mem_of_isBlank {content : Text} (blank : content.isBlank = true) {c : Char}
    (filled : isBlank c = false) : c ∉ content := by
  intro member
  have blankChar := List.all_eq_true.mp blank c member
  rw [filled] at blankChar
  cases blankChar

private theorem read?_blank {content : Text} (rest : Text) (blank : content.isBlank = true)
    (nonempty : content ≠ []) :
    read? .prose (Delimiter.inlineDollar.wrap content ++ rest) =
      some ⟨Delimiter.inlineDollar.wrap content, rest, .prose, .blank⟩ := by
  have noDigit : startsWithDigit content = false := by
    cases content with
    | nil => rfl
    | cons first content =>
      have notDigit : ¬ first.isDigit = true := fun digit =>
        not_mem_of_isBlank blank (isBlank_eq_false_of_isDigit digit) (List.mem_cons_self ..)
      exact Bool.eq_false_iff.mpr notDigit
  have escaped : content.DollarsEscaped := by
    rintro before after rfl
    exact absurd (by simp) (not_mem_of_isBlank blank (c := '$') (by decide))
  have last : content.getLast? ≠ some '\\' := by
    intro backslash
    exact not_mem_of_isBlank blank (by decide) (List.mem_of_getLast? backslash)
  rw [Delimiter.wrap, List.append_assoc, List.append_assoc]
  change some (readDollar (content ++ '$' :: rest)) = _
  rw [readDollar_content nonempty noDigit escaped last, blank]
  rfl

private theorem read?_currency {rest : Text} (digit : startsWithDigit rest = true) :
    read? .prose ('$' :: rest) = some ⟨['$'], rest, .prose, .currency⟩ := by
  have single : rest.head? ≠ some '$' := by
    intro dollar
    cases rest with
    | nil => cases dollar
    | cons first rest => cases dollar; cases digit
  change some (readDollar rest) = _
  rw [readDollar_single single, digit]
  rfl

/-- In a code block, everything as far as the first mark is code. -/
private theorem read?_fencedCode {code rest : Text} (nonempty : code ≠ [])
    (first : Text.EndsFirst codeFence code) (fence : codeFence <+: rest) :
    read? .fenced (code ++ rest) = some ⟨code, rest, .fenced, .plain⟩ := by
  obtain ⟨after, rfl⟩ := fence
  have split : Text.splitFirst? codeFence (code ++ (codeFence ++ after)) = some (code, after) :=
    Text.splitFirst?_eq_some_iff.mpr ⟨(List.append_assoc ..).symm, first⟩
  have notHere : Text.dropPrefix? codeFence (code ++ (codeFence ++ after)) = none := by
    rw [Text.dropPrefix?_eq_none_iff]
    rintro ⟨rest, here⟩
    have front : Text.splitFirst? codeFence (code ++ (codeFence ++ after)) = some ([], rest) :=
      Text.splitFirst?_eq_some_iff.mpr ⟨here.symm, Text.endsFirst_nil codeFence⟩
    rw [split] at front
    cases front
    exact nonempty rfl
  change readFenced (code ++ (codeFence ++ after)) = _
  rw [readFenced, notHere, split]
  rfl

private theorem read?_inlineCode {code rest : Text} (nonempty : code ≠ []) (noTick : '`' ∉ code)
    (tick : ['`'] <+: rest) :
    read? .inlineCode (code ++ rest) = some ⟨code, rest, .inlineCode, .plain⟩ := by
  obtain ⟨after, rfl⟩ := tick
  have split : Text.splitFirst? ['`'] (code ++ (['`'] ++ after)) = some (code, after) :=
    Text.splitFirst?_eq_some_iff.mpr
      ⟨(List.append_assoc ..).symm, Text.endsFirst_singleton_iff.mpr noTick⟩
  change readInlineCode (code ++ (['`'] ++ after)) = _
  cases code with
  | nil => exact absurd rfl nonempty
  | cons first code =>
    unfold readInlineCode
    split
    · next starts =>
      cases starts
      exact absurd (List.mem_cons_self ..) noTick
    · rw [split]
      rfl

/-- A piece of the described kind is what reading takes off. -/
theorem read?_of_reads {mode : Mode} {piece : Piece} (reads : Reads mode piece) :
    read? mode (piece.taken ++ piece.rest) = some piece := by
  cases reads with
  | openFence rest => rfl
  | openTick rest alone =>
    have absent : Text.dropPrefix? codeFence ('`' :: rest) = none := by
      rw [← Option.isNone_iff_eq_none, ← Option.isSome_eq_false_iff, Bool.eq_false_iff]
      exact fun run => alone (isSome_dropPrefix?_codeFence_iff.mp run)
    change readProse ('`' :: rest) = _
    simp only [readProse, absent]
  | lastBackslash => rfl
  | @escape escaped rest ordinary =>
    change some (readBackslash (escaped :: rest)) = _
    simp only [readBackslash, ordinary]
  | unclosed rest unclosed => exact read?_unclosed unclosed
  | formula rest encloses => exact read?_formula rest encloses
  | currency rest digit => exact read?_currency digit
  | blank rest blank nonempty => exact read?_blank rest blank nonempty
  | @plain first rest tick backslash dollar =>
    change readProse (first :: rest) = _
    unfold readProse
    split <;> simp_all
  | closeFence rest => rfl
  | fencedCode rest nonempty first fence => exact read?_fencedCode nonempty first fence
  | tickRun rest run =>
    change readInlineCode ('`' :: rest) = _
    simp only [readInlineCode, isSome_dropPrefix?_codeFence_iff, run, ↓reduceIte]
  | closeTick rest alone =>
    change readInlineCode ('`' :: rest) = _
    simp only [readInlineCode, isSome_dropPrefix?_codeFence_iff, alone, ↓reduceIte]
  | inlineCode rest nonempty noTick tick => exact read?_inlineCode nonempty noTick tick

/-- Reading takes off exactly the pieces described. -/
theorem read?_eq_some_iff {mode : Mode} {text : Text} {piece : Piece} :
    read? mode text = some piece ↔ text = piece.taken ++ piece.rest ∧ Reads mode piece := by
  constructor
  · exact fun found => ⟨(read?_of found).text_eq, reads_of_read? found⟩
  · rintro ⟨rfl, reads⟩
    exact read?_of_reads reads

end Scan

end FormulaRepair
