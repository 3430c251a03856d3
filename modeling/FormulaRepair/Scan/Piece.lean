import FormulaRepair.CodeFence
import FormulaRepair.Delimiter
import FormulaRepair.Text.Blank

/-! # Reading one piece of Markdown

Reading goes from left to right in one of three modes: prose, a fenced code block, or inline code.
A piece is what one step of reading takes off the front of the text, together with what was
recognised there. Only prose holds formulas; code is passed over as it stands. An opening mark whose
closing mark never comes is taken as plain text, and so is a dollar sign in front of a digit.

The laws say that a piece and its rest make up the text that was read, and that no piece is empty;
so reading always makes progress and never leaves the text.
-/

namespace FormulaRepair.Scan

/-- What the text at hand is part of. -/
inductive Mode
  | prose
  | fenced
  | inlineCode
deriving DecidableEq, Repr, Inhabited

/-- What a piece was recognised as. -/
inductive Reading
  /-- Text without a meaning of its own, in prose or in code. -/
  | plain
  /-- The mark at an end of a code block or of inline code. -/
  | codeMark
  /-- A backslash and the character that it escapes, or a backslash at the end of the text. -/
  | escape
  /-- A dollar sign in front of a digit. -/
  | currency
  /-- An opening mark without a closing mark after it. -/
  | unclosed (delimiter : Delimiter)
  /-- A pair of single dollar signs around nothing but blanks. -/
  | blank
  /-- A formula with the text between its marks. -/
  | formula (delimiter : Delimiter) (content : Text)
deriving DecidableEq, Repr, Inhabited

/-- What one step of reading takes off the front of a text. -/
structure Piece where
  taken : Text
  rest : Text
  next : Mode
  reading : Reading := .plain
deriving DecidableEq, Repr, Inhabited

/-- Split at the first dollar sign that no backslash precedes; `previous` is the character in front
of the text. -/
def splitClosingDollar? (previous : Char) : Text → Option (Text × Text)
  | [] => none
  | first :: rest =>
      if first = '$' ∧ previous ≠ '\\' then some ([], rest)
      else (splitClosingDollar? first rest).map fun (before, after) => (first :: before, after)

/-- A split at a closing dollar sign loses nothing. -/
theorem eq_append_of_splitClosingDollar? {previous : Char} {text before after : Text}
    (found : splitClosingDollar? previous text = some (before, after)) :
    text = before ++ '$' :: after := by
  induction text generalizing previous before with
  | nil => simp [splitClosingDollar?] at found
  | cons first text ih =>
    rw [splitClosingDollar?] at found
    split at found
    · next closing =>
      simp only [Option.some.injEq, Prod.mk.injEq] at found
      obtain ⟨rfl, rfl⟩ := found
      simp [closing.1]
    · simp only [Option.map_eq_some_iff, Prod.mk.injEq] at found
      obtain ⟨⟨inner, tail⟩, later, rfl, rfl⟩ := found
      simp [ih later]

/-- The bracket delimiter that a backslash and this character open. -/
def bracketDelimiter? : Char → Option Delimiter
  | '(' => some .inlineParen
  | '[' => some .blockBracket
  | _ => none

/-- Read on inside a code block, up to its closing fence or past it. -/
def readFenced (text : Text) : Option Piece :=
  match Text.dropPrefix? codeFence text with
  | some rest => some ⟨codeFence, rest, .prose, .codeMark⟩
  | none =>
      (Text.splitFirst? codeFence text).map fun (before, after) =>
        ⟨before, codeFence ++ after, .fenced, .plain⟩

/-- Read on inside inline code, up to its closing backtick or past it. A run of three backticks does
not close inline code at its first one. -/
def readInlineCode (text : Text) : Option Piece :=
  match text with
  | '`' :: rest =>
      if (Text.dropPrefix? codeFence text).isSome then some ⟨['`'], rest, .inlineCode, .plain⟩
      else some ⟨['`'], rest, .prose, .codeMark⟩
  | _ =>
      (Text.splitFirst? ['`'] text).map fun (before, after) =>
        ⟨before, '`' :: after, .inlineCode, .plain⟩

/-- Read a backslash at the front of prose, given what follows it. -/
def readBackslash : Text → Piece
  | [] => ⟨['\\'], [], .prose, .escape⟩
  | escaped :: rest =>
      match bracketDelimiter? escaped with
      | none => ⟨['\\', escaped], rest, .prose, .escape⟩
      | some delimiter =>
          match Text.splitFirst? delimiter.closer rest with
          | none => ⟨['\\', escaped], rest, .prose, .unclosed delimiter⟩
          | some (content, after) =>
              ⟨'\\' :: escaped :: (content ++ delimiter.closer), after, .prose,
                .formula delimiter content⟩

/-- Does the text begin with one of the digits `0` to `9`? -/
def startsWithDigit : Text → Bool
  | [] => false
  | first :: _ => first.isDigit

/-- Read a dollar sign at the front of prose, given what follows it. -/
def readDollar : Text → Piece
  | '$' :: rest =>
      match Text.splitFirst? Delimiter.blockDollar.closer rest with
      | none => ⟨['$', '$'], rest, .prose, .unclosed .blockDollar⟩
      | some (content, after) =>
          ⟨Delimiter.blockDollar.wrap content, after, .prose, .formula .blockDollar content⟩
  | rest =>
      if startsWithDigit rest then ⟨['$'], rest, .prose, .currency⟩
      else
        match splitClosingDollar? '$' rest with
        | none => ⟨['$'], rest, .prose, .unclosed .inlineDollar⟩
        | some (content, after) =>
            ⟨Delimiter.inlineDollar.wrap content, after, .prose,
              if content.isBlank then .blank else .formula .inlineDollar content⟩

/-- Read a piece of prose. -/
def readProse (text : Text) : Option Piece :=
  match text with
  | [] => none
  | '`' :: rest =>
      match Text.dropPrefix? codeFence text with
      | some after => some ⟨codeFence, after, .fenced, .codeMark⟩
      | none => some ⟨['`'], rest, .inlineCode, .codeMark⟩
  | '\\' :: rest => some (readBackslash rest)
  | '$' :: rest => some (readDollar rest)
  | first :: rest => some ⟨[first], rest, .prose, .plain⟩

/-- Read one piece of a text. There is none at the end of the text, and none in code that is never
closed. -/
def read? (mode : Mode) (text : Text) : Option Piece :=
  match mode with
  | .prose => readProse text
  | .fenced => readFenced text
  | .inlineCode => readInlineCode text

/-- A piece of a text: it and its rest make up the text, and it is not empty. -/
structure Piece.Of (text : Text) (piece : Piece) : Prop where
  text_eq : text = piece.taken ++ piece.rest
  taken_ne_nil : piece.taken ≠ []

private theorem readFenced_of {text : Text} {piece : Piece}
    (found : readFenced text = some piece) : piece.Of text := by
  unfold readFenced at found
  split at found
  · next rest here =>
    cases found
    exact ⟨Text.dropPrefix?_eq_some_iff.mp here, codeFence_ne_nil⟩
  · next notHere =>
    simp only [Option.map_eq_some_iff] at found
    obtain ⟨⟨before, after⟩, split, rfl⟩ := found
    have whole := Text.eq_append_of_splitFirst? split
    refine ⟨by simpa using whole, ?_⟩
    rintro rfl
    rw [Text.dropPrefix?_eq_some_iff.mpr (by simpa using whole)] at notHere
    cases notHere

private theorem readInlineCode_of {text : Text} {piece : Piece}
    (found : readInlineCode text = some piece) : piece.Of text := by
  unfold readInlineCode at found
  split at found
  · split at found <;> cases found <;> exact ⟨rfl, by simp⟩
  · next notHere =>
    simp only [Option.map_eq_some_iff] at found
    obtain ⟨⟨before, after⟩, split, rfl⟩ := found
    have whole := Text.eq_append_of_splitFirst? split
    refine ⟨by simpa using whole, ?_⟩
    rintro rfl
    exact notHere after (by simpa using whole)

private theorem readBackslash_of (rest : Text) : (readBackslash rest).Of ('\\' :: rest) := by
  unfold readBackslash
  split
  · exact ⟨rfl, by simp⟩
  · split
    · exact ⟨rfl, by simp⟩
    · split
      · exact ⟨rfl, by simp⟩
      · next content after split =>
        exact ⟨by simp [Text.eq_append_of_splitFirst? split], by simp⟩

private theorem readDollar_of (rest : Text) : (readDollar rest).Of ('$' :: rest) := by
  unfold readDollar
  split
  · split
    · exact ⟨rfl, by simp⟩
    · next content after split =>
      exact ⟨by simp [Text.eq_append_of_splitFirst? split, Delimiter.wrap, Delimiter.opener],
        Delimiter.wrap_ne_nil _ _⟩
  · split
    · exact ⟨rfl, by simp⟩
    · split
      · exact ⟨rfl, by simp⟩
      · next content after split =>
        exact ⟨by simp [eq_append_of_splitClosingDollar? split, Delimiter.wrap, Delimiter.opener,
          Delimiter.closer], Delimiter.wrap_ne_nil _ _⟩

private theorem readProse_of {text : Text} {piece : Piece}
    (found : readProse text = some piece) : piece.Of text := by
  unfold readProse at found
  split at found
  · cases found
  · split at found
    · next after here =>
      cases found
      exact ⟨Text.dropPrefix?_eq_some_iff.mp here, codeFence_ne_nil⟩
    · cases found; exact ⟨rfl, by simp⟩
  · cases found; exact readBackslash_of _
  · cases found; exact readDollar_of _
  · cases found; exact ⟨rfl, by simp⟩

/-- Every piece is a nonempty beginning of the text that it was read from. -/
theorem read?_of {mode : Mode} {text : Text} {piece : Piece}
    (found : read? mode text = some piece) : piece.Of text := by
  cases mode with
  | prose => exact readProse_of found
  | fenced => exact readFenced_of found
  | inlineCode => exact readInlineCode_of found

/-- Reading makes progress. -/
theorem length_rest_lt {mode : Mode} {text : Text} {piece : Piece}
    (found : read? mode text = some piece) : piece.rest.length < text.length := by
  have valid := read?_of found
  have positive := List.length_pos_iff.mpr valid.taken_ne_nil
  rw [valid.text_eq, List.length_append]
  omega

end FormulaRepair.Scan
