import FormulaRepair.CodeFence
import FormulaRepair.Delimiter
import FormulaRepair.Text.Blank

/-! # Cleaning the output of a model

A model is asked for a bare formula, but may put its reasoning in front, fence its answer as code,
or write the delimiters again. Cleaning removes, in this order, all closed reasoning blocks, one
fence, and one pair of delimiters, with the blanks that each of them leaves at the ends.
-/

namespace FormulaRepair.Cleaning

/-- Letters that count as one small letter when case is ignored. Besides the two cases, the Kelvin
sign counts as `k`, and the capital with a dot and the small letter without one count as `i`. -/
def sameLetter (small found : Char) : Bool :=
  found.toLower == small ||
    (small == 'k' && found == '\u212a') ||
    (small == 'i' && (found == '\u0130' || found == '\u0131'))

/-- What follows a mark of small letters when the text begins with it, whatever the case. -/
def dropPrefixAnyCase? : Text → Text → Option Text
  | [], rest => some rest
  | _ :: _, [] => none
  | wanted :: mark, found :: rest =>
      if sameLetter wanted found then dropPrefixAnyCase? mark rest else none

/-- What follows the first occurrence of a mark, whatever the case. -/
def afterFirstAnyCase? (mark : Text) : Text → Option Text
  | [] => dropPrefixAnyCase? mark []
  | first :: rest =>
      match dropPrefixAnyCase? mark (first :: rest) with
      | some after => some after
      | none => afterFirstAnyCase? mark rest

/-- The mark in front of a reasoning block. -/
def thinkOpener : Text := ['<', 't', 'h', 'i', 'n', 'k', '>']

/-- The mark behind a reasoning block. -/
def thinkCloser : Text := ['<', '/', 't', 'h', 'i', 'n', 'k', '>']

theorem length_dropPrefixAnyCase? {mark text rest : Text}
    (found : dropPrefixAnyCase? mark text = some rest) :
    rest.length + mark.length = text.length := by
  induction mark generalizing text with
  | nil => simp_all [dropPrefixAnyCase?]
  | cons wanted mark ih =>
    cases text with
    | nil => simp [dropPrefixAnyCase?] at found
    | cons first text =>
      simp only [dropPrefixAnyCase?] at found
      split at found
      · have := ih found
        simp only [List.length_cons]
        omega
      · cases found

theorem length_afterFirstAnyCase? {mark text rest : Text}
    (found : afterFirstAnyCase? mark text = some rest) :
    rest.length + mark.length ≤ text.length := by
  induction text with
  | nil => exact Nat.le_of_eq (length_dropPrefixAnyCase? found)
  | cons first text ih =>
    rw [afterFirstAnyCase?] at found
    split at found
    · next after here =>
      cases found
      exact Nat.le_of_eq (length_dropPrefixAnyCase? here)
    · have := ih found
      simp only [List.length_cons]
      omega

/-- What follows a closed reasoning block at the front of a text. -/
def dropThinking? (text : Text) : Option Text :=
  (dropPrefixAnyCase? thinkOpener text).bind (afterFirstAnyCase? thinkCloser)

theorem length_dropThinking? {text rest : Text} (found : dropThinking? text = some rest) :
    rest.length < text.length := by
  simp only [dropThinking?, Option.bind_eq_some_iff] at found
  obtain ⟨middle, opened, closed⟩ := found
  have first := length_dropPrefixAnyCase? opened
  have second := length_afterFirstAnyCase? closed
  have positive : 0 < thinkOpener.length := by simp [thinkOpener]
  omega

/-- The text without its closed reasoning blocks; an opening mark without a closing one stays. -/
def withoutThinking : Text → Text
  | [] => []
  | first :: text =>
      match _block : dropThinking? (first :: text) with
      | some rest => withoutThinking rest
      | none => first :: withoutThinking text
termination_by text => text.length
decreasing_by
  · exact length_dropThinking? _block
  · simp

/-- The languages that a fence may name. -/
def fenceLanguages : List Text :=
  [['l', 'a', 't', 'e', 'x'], ['t', 'e', 'x'], ['m', 'a', 't', 'h']]

/-- The text without an opening fence, its language, and the rest of a blank line after it. -/
def withoutFenceOpener (text : Text) : Text :=
  match Text.dropPrefix? codeFence text with
  | none => text
  | some rest =>
      let rest := (fenceLanguages.findSome? (dropPrefixAnyCase? · rest)).getD rest
      let rest := rest.dropWhile fun c => c == ' ' || c == '\t'
      (Text.dropPrefix? ['\n'] rest).getD rest

/-- The text without a closing fence and the line end in front of it. -/
def withoutFenceCloser (text : Text) : Text :=
  match Text.dropSuffix? codeFence text with
  | none => text
  | some rest => (Text.dropSuffix? ['\n'] rest).getD rest

/-- The delimiters in the order in which they are looked for: two dollar signs before one. -/
def wrappers : List Delimiter := [.blockDollar, .inlineDollar, .inlineParen, .blockBracket]

/-- The text inside one pair of delimiters, when it begins with the one and ends with the other. -/
def unwrap? (delimiter : Delimiter) (text : Text) : Option Text :=
  match Text.dropPrefix? delimiter.opener text, Text.dropSuffix? delimiter.closer text with
  | some inner, some _ =>
      let inner := inner.stripLeft
      some (((Text.dropSuffix? delimiter.closer inner).map Text.stripRight).getD inner)
  | _, _ => none

/-- The text inside the first pair of delimiters that fits, or the text itself. -/
def withoutDelimiters (text : Text) : Text := (wrappers.findSome? (unwrap? · text)).getD text

/-- The bare formula in the output of a model. -/
def clean (output : Text) : Text :=
  let answer := (withoutThinking output).strip
  let code := (withoutFenceCloser (withoutFenceOpener answer)).strip
  (withoutDelimiters code).strip

end FormulaRepair.Cleaning
