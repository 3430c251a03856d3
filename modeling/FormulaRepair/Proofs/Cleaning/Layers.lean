import FormulaRepair.Proofs.Cleaning.Decoration
import Mathlib.Logic.Function.Iterate

/-! # What a second cleaning finds

Cleaning takes off one layer: the closed blocks of reasoning, a fence, and a pair of delimiters.
What was inside may be such a layer again, or become one when the block that stood in its middle is
gone. A text is left as it is exactly when there is no layer on it. Every step only takes characters
away, so that cleaning is at rest when each of its steps is, and repeated cleaning comes to rest.
-/

namespace FormulaRepair.Cleaning

/-- There is a closed block of reasoning in the text. -/
def Reasons (text : Text) : Prop :=
  ∃ before opener rest, text = before ++ (opener ++ rest) ∧ Spells thinkOpener opener ∧
    Occurs thinkCloser rest

/-- The text begins with the one mark of a delimiter and ends with the other; these may share
characters. -/
def StandsBetween (delimiter : Delimiter) (text : Text) : Prop :=
  delimiter.opener <+: text ∧ delimiter.closer <:+ text

/-- A text with no layer on it that cleaning takes off. -/
structure Tidy (text : Text) : Prop where
  strip_eq : text.strip = text
  not_reasons : ¬ Reasons text
  not_fence_prefix : ¬ codeFence <+: text
  not_fence_suffix : ¬ codeFence <:+ text
  undelimited : ∀ delimiter, ¬ StandsBetween delimiter text

/-- The step takes characters away, and neither adds nor moves any. -/
def Shrinks (step : Text → Text) : Prop := ∀ text, (step text).Sublist text

namespace Shrinks

variable {first second : Text → Text}

theorem comp (earlier : Shrinks first) (later : Shrinks second) : Shrinks (second ∘ first) :=
  fun text => (later (first text)).trans (earlier text)

/-- What one step takes away the next cannot put back: two steps leave a text as it is when each of
them does. -/
theorem comp_eq_self_iff (earlier : Shrinks first) (later : Shrinks second) {text : Text} :
    (second ∘ first) text = text ↔ first text = text ∧ second text = text := by
  constructor
  · intro same
    have whole : text.Sublist (first text) := by
      have kept := later (first text)
      rwa [show second (first text) = text from same] at kept
    have kept : first text = text := (earlier text).antisymm whole
    rw [Function.comp_apply, kept] at same
    exact ⟨kept, same⟩
  · rintro ⟨kept, same⟩
    rw [Function.comp_apply, kept, same]

end Shrinks

theorem shrinks_strip : Shrinks Text.strip := fun text =>
  text.stripLeft.stripRight_prefix.sublist.trans (List.dropWhile_sublist _)

section Reasoning

variable {first : Char} {text rest : Text}

theorem suffix_of_dropPrefixAnyCase? {mark : Text}
    (begins : dropPrefixAnyCase? mark text = some rest) : rest <:+ text := by
  obtain ⟨found, rfl, -⟩ := dropPrefixAnyCase?_eq_some_iff.mp begins
  exact List.suffix_append found rest

private theorem suffix_of_afterFirstAnyCase? {mark : Text}
    (found : afterFirstAnyCase? mark text = some rest) : rest <:+ text := by
  induction text with
  | nil => exact suffix_of_dropPrefixAnyCase? found
  | cons first text ih =>
    rw [afterFirstAnyCase?] at found
    split at found
    · next after here =>
      cases found
      exact suffix_of_dropPrefixAnyCase? here
    · exact (ih found).trans (List.suffix_cons first text)

private theorem suffix_of_dropThinking? (block : dropThinking? text = some rest) :
    rest <:+ text := by
  obtain ⟨behind, opened, closed⟩ := Option.bind_eq_some_iff.mp block
  exact (suffix_of_afterFirstAnyCase? closed).trans (suffix_of_dropPrefixAnyCase? opened)

private theorem dropThinking?_ne_none_iff : dropThinking? text ≠ none ↔
    ∃ opener rest, text = opener ++ rest ∧ Spells thinkOpener opener ∧ Occurs thinkCloser rest := by
  have closed (rest : Text) :
      afterFirstAnyCase? thinkCloser rest ≠ none ↔ Occurs thinkCloser rest := by
    rw [ne_eq, afterFirstAnyCase?_eq_none_iff, not_not]
  constructor
  · intro block
    obtain ⟨after, block⟩ := Option.ne_none_iff_exists'.mp block
    obtain ⟨rest, opened, ends⟩ := Option.bind_eq_some_iff.mp block
    obtain ⟨opener, rfl, spelled⟩ := dropPrefixAnyCase?_eq_some_iff.mp opened
    exact ⟨opener, rest, rfl, spelled, (closed rest).mp (by rw [ends]; exact Option.some_ne_none _)⟩
  · rintro ⟨opener, rest, rfl, spelled, ends⟩
    rw [dropThinking?, dropPrefixAnyCase?_append spelled, Option.bind_some]
    exact (closed rest).mpr ends

private theorem not_reasons_nil : ¬ Reasons [] := by
  rintro ⟨before, opener, rest, whole, spelled, -⟩
  obtain ⟨-, rfl, -⟩ : before = [] ∧ opener = [] ∧ rest = [] := by simpa using whole.symm
  exact absurd spelled (by decide)

private theorem reasons_cons :
    Reasons (first :: text) ↔ dropThinking? (first :: text) ≠ none ∨ Reasons text := by
  rw [dropThinking?_ne_none_iff]
  constructor
  · rintro ⟨before, opener, rest, whole, spelled, ends⟩
    cases before with
    | nil => exact .inl ⟨opener, rest, whole, spelled, ends⟩
    | cons head before =>
      cases whole
      exact .inr ⟨before, opener, rest, rfl, spelled, ends⟩
  · rintro (⟨opener, rest, whole, spelled, ends⟩ | ⟨before, opener, rest, rfl, spelled, ends⟩)
    · exact ⟨[], opener, rest, whole, spelled, ends⟩
    · exact ⟨first :: before, opener, rest, rfl, spelled, ends⟩

theorem withoutThinking_cons_of_dropThinking? (unblocked : dropThinking? (first :: text) = none) :
    withoutThinking (first :: text) = first :: withoutThinking text := by
  rw [withoutThinking]
  split
  · next rest block =>
    rw [unblocked] at block
    cases block
  · rfl

theorem shrinks_withoutThinking : Shrinks withoutThinking := by
  intro text
  induction text using withoutThinking.induct with
  | case1 => rw [withoutThinking]
  | case2 first text rest block ih =>
    rw [withoutThinking_of_dropThinking? block]
    exact ih.trans (suffix_of_dropThinking? block).sublist
  | case3 first text unblocked ih =>
    rw [withoutThinking_cons_of_dropThinking? unblocked]
    exact ih.cons_cons first

/-- A text stays as it is when no block of reasoning is closed in it, with or without opening marks.
-/
theorem withoutThinking_eq_self_iff : withoutThinking text = text ↔ ¬ Reasons text := by
  induction text with
  | nil => exact iff_of_true (by rw [withoutThinking]) not_reasons_nil
  | cons first text ih =>
    rw [reasons_cons, not_or, not_not, ← ih]
    cases block : dropThinking? (first :: text) with
    | none => simp [withoutThinking_cons_of_dropThinking? block]
    | some rest =>
      have shorter := length_dropThinking? block
      have left := (shrinks_withoutThinking rest).length_le
      rw [withoutThinking_of_dropThinking? block]
      refine iff_of_false (fun same => ?_) (by simp)
      rw [same] at left
      omega

end Reasoning

section Fence

private theorem dropPrefix?_getD_suffix (mark text : Text) :
    (Text.dropPrefix? mark text).getD text <:+ text := by
  cases begins : Text.dropPrefix? mark text with
  | none => exact List.suffix_rfl
  | some rest => exact ⟨mark, (Text.dropPrefix?_eq_some_iff.mp begins).symm⟩

private theorem dropSuffix?_getD_prefix (mark text : Text) :
    (Text.dropSuffix? mark text).getD text <+: text := by
  cases ends : Text.dropSuffix? mark text with
  | none => exact List.prefix_rfl
  | some rest => exact ⟨mark, (Text.dropSuffix?_eq_some_iff.mp ends).symm⟩

private theorem findSome?_fenceLanguages_suffix (text : Text) :
    (fenceLanguages.findSome? (dropPrefixAnyCase? · text)).getD text <:+ text := by
  cases named : fenceLanguages.findSome? (dropPrefixAnyCase? · text) with
  | none => exact List.suffix_rfl
  | some rest =>
    obtain ⟨_, _, _, -, begins, -⟩ := List.findSome?_eq_some_iff.mp named
    exact suffix_of_dropPrefixAnyCase? begins

theorem withoutFenceOpener_codeFence_append (rest : Text) :
    withoutFenceOpener (codeFence ++ rest) <:+ rest := by
  rw [withoutFenceOpener, Text.dropPrefix?_eq_some_iff.mpr rfl]
  exact (dropPrefix?_getD_suffix ..).trans
    ((List.dropWhile_suffix _).trans (findSome?_fenceLanguages_suffix rest))

theorem withoutFenceCloser_append_codeFence (rest : Text) :
    withoutFenceCloser (rest ++ codeFence) <+: rest := by
  rw [withoutFenceCloser, Text.dropSuffix?_eq_some_iff.mpr rfl]
  exact dropSuffix?_getD_prefix ..

theorem shrinks_withoutFenceOpener : Shrinks withoutFenceOpener := by
  intro text
  by_cases fenced : codeFence <+: text
  · obtain ⟨rest, rfl⟩ := fenced
    exact (withoutFenceOpener_codeFence_append rest).sublist.trans (List.sublist_append_right ..)
  · rw [withoutFenceOpener_eq_self fenced]

theorem shrinks_withoutFenceCloser : Shrinks withoutFenceCloser := by
  intro text
  by_cases fenced : codeFence <:+ text
  · obtain ⟨rest, rfl⟩ := fenced
    exact (withoutFenceCloser_append_codeFence rest).sublist.trans (List.sublist_append_left ..)
  · rw [withoutFenceCloser_eq_self fenced]

private theorem withoutFenceOpener_eq_self_iff {text : Text} :
    withoutFenceOpener text = text ↔ ¬ codeFence <+: text := by
  refine ⟨?_, withoutFenceOpener_eq_self⟩
  rintro same ⟨rest, rfl⟩
  have left := (withoutFenceOpener_codeFence_append rest).length_le
  have marked : 0 < codeFence.length := by decide
  rw [same, List.length_append] at left
  omega

private theorem withoutFenceCloser_eq_self_iff {text : Text} :
    withoutFenceCloser text = text ↔ ¬ codeFence <:+ text := by
  refine ⟨?_, withoutFenceCloser_eq_self⟩
  rintro same ⟨rest, rfl⟩
  have left := (withoutFenceCloser_append_codeFence rest).length_le
  have marked : 0 < codeFence.length := by decide
  rw [same, List.length_append] at left
  omega

end Fence

section Delimiters

variable {delimiter : Delimiter} {text inner : Text}

theorem unwrap?_eq_none_iff : unwrap? delimiter text = none ↔ ¬ StandsBetween delimiter text := by
  rw [StandsBetween, not_and_or, ← Text.dropPrefix?_eq_none_iff, ← Text.dropSuffix?_eq_none_iff,
    unwrap?]
  cases Text.dropPrefix? delimiter.opener text
  · simp
  · cases Text.dropSuffix? delimiter.closer text <;> simp

/-- At least the opening mark is gone. -/
theorem sublist_of_unwrap? (found : unwrap? delimiter text = some inner) :
    ∃ rest, text = delimiter.opener ++ rest ∧ inner.Sublist rest := by
  rw [unwrap?] at found
  split at found
  · next rest _ begins _ =>
    cases found
    refine ⟨rest, Text.dropPrefix?_eq_some_iff.mp begins, ?_⟩
    have left : rest.stripLeft.Sublist rest := List.dropWhile_sublist _
    cases ends : Text.dropSuffix? delimiter.closer rest.stripLeft with
    | none => exact left
    | some before =>
      have whole := Text.dropSuffix?_eq_some_iff.mp ends
      have front : before.Sublist rest.stripLeft := by
        rw [whole]
        exact List.sublist_append_left ..
      exact (before.stripRight_prefix.sublist.trans front).trans left
  · cases found

theorem withoutDelimiters_eq_self (undelimited : ∀ delimiter, ¬ StandsBetween delimiter text) :
    withoutDelimiters text = text := by
  have absent : wrappers.findSome? (unwrap? · text) = none :=
    List.findSome?_eq_none_iff.mpr fun delimiter _ =>
      unwrap?_eq_none_iff.mpr (undelimited delimiter)
  rw [withoutDelimiters, absent, Option.getD_none]

/-- Between any delimiters a text loses at least the opening mark of the ones that fit first. -/
theorem exists_withoutDelimiters (between : StandsBetween delimiter text) :
    ∃ fitting rest, text = Delimiter.opener fitting ++ rest ∧
      (withoutDelimiters text).Sublist rest := by
  cases found : wrappers.findSome? (unwrap? · text) with
  | none =>
    have listed : delimiter ∈ wrappers := by cases delimiter <;> decide
    exact absurd between (unwrap?_eq_none_iff.mp (List.findSome?_eq_none_iff.mp found _ listed))
  | some inner =>
    obtain ⟨_, fitting, _, -, fits, -⟩ := List.findSome?_eq_some_iff.mp found
    obtain ⟨rest, whole, inside⟩ := sublist_of_unwrap? fits
    exact ⟨fitting, rest, whole, by rwa [withoutDelimiters, found]⟩

theorem shrinks_withoutDelimiters : Shrinks withoutDelimiters := by
  intro text
  by_cases between : ∃ delimiter, StandsBetween delimiter text
  · obtain ⟨delimiter, between⟩ := between
    obtain ⟨fitting, rest, whole, inside⟩ := exists_withoutDelimiters between
    have behind : rest.Sublist text := by
      rw [whole]
      exact List.sublist_append_right ..
    exact inside.trans behind
  · rw [withoutDelimiters_eq_self (not_exists.mp between)]

private theorem withoutDelimiters_eq_self_iff :
    withoutDelimiters text = text ↔ ∀ delimiter, ¬ StandsBetween delimiter text := by
  refine ⟨fun same delimiter between => ?_, withoutDelimiters_eq_self⟩
  obtain ⟨fitting, rest, whole, inside⟩ := exists_withoutDelimiters between
  have left := inside.length_le
  rw [same, whole, List.length_append] at left
  have marked : 0 < fitting.opener.length := by cases fitting <;> decide
  omega

end Delimiters

theorem clean_eq_comp : clean = Text.strip ∘ withoutDelimiters ∘ Text.strip ∘ withoutFenceCloser ∘
    withoutFenceOpener ∘ Text.strip ∘ withoutThinking := by
  funext output
  simp only [Function.comp_apply, clean]

theorem shrinks_clean : Shrinks clean := by
  have answer := shrinks_withoutThinking.comp shrinks_strip
  have code := ((answer.comp shrinks_withoutFenceOpener).comp shrinks_withoutFenceCloser).comp
    shrinks_strip
  rw [clean_eq_comp]
  exact (code.comp shrinks_withoutDelimiters).comp shrinks_strip

private theorem strip_clean (output : Text) : (clean output).strip = clean output :=
  Text.strip_strip _

/-- Cleaning leaves exactly the texts as they are that have no layer on them. -/
theorem clean_eq_self_iff {text : Text} : clean text = text ↔ Tidy text := by
  have thinking := shrinks_withoutThinking
  have answer := thinking.comp shrinks_strip
  have opened := answer.comp shrinks_withoutFenceOpener
  have closed := opened.comp shrinks_withoutFenceCloser
  have code := closed.comp shrinks_strip
  have inner := code.comp shrinks_withoutDelimiters
  rw [clean_eq_comp, inner.comp_eq_self_iff shrinks_strip,
    code.comp_eq_self_iff shrinks_withoutDelimiters, closed.comp_eq_self_iff shrinks_strip,
    opened.comp_eq_self_iff shrinks_withoutFenceCloser,
    answer.comp_eq_self_iff shrinks_withoutFenceOpener, thinking.comp_eq_self_iff shrinks_strip,
    withoutThinking_eq_self_iff, withoutFenceOpener_eq_self_iff, withoutFenceCloser_eq_self_iff,
    withoutDelimiters_eq_self_iff]
  constructor
  · rintro ⟨⟨⟨⟨⟨⟨unreasoned, stripped⟩, unopened⟩, unclosed⟩, -⟩, undelimited⟩, -⟩
    exact ⟨stripped, unreasoned, unopened, unclosed, undelimited⟩
  · rintro ⟨stripped, unreasoned, unopened, unclosed, undelimited⟩
    exact ⟨⟨⟨⟨⟨⟨unreasoned, stripped⟩, unopened⟩, unclosed⟩, stripped⟩, undelimited⟩, stripped⟩

private theorem length_clean_lt {text : Text} (layered : ¬ Tidy text) :
    (clean text).length < text.length := by
  have shrunk := shrinks_clean text
  refine Nat.lt_of_le_of_ne shrunk.length_le fun same => ?_
  exact layered (clean_eq_self_iff.mp (shrunk.eq_of_length same))

/-- A layer has at least one character, so that as many cleanings as there are characters are
enough. -/
theorem tidy_iterate (text : Text) {count : Nat} (enough : text.length ≤ count) :
    Tidy (clean^[count] text) := by
  induction count generalizing text with
  | zero =>
    obtain rfl := List.eq_nil_of_length_eq_zero (Nat.le_zero.mp enough)
    exact clean_eq_self_iff.mp (by decide +kernel)
  | succ count ih =>
    rw [Function.iterate_succ_apply]
    by_cases tidy : Tidy text
    · have kept := clean_eq_self_iff.mpr tidy
      rw [kept, Function.iterate_fixed kept]
      exact tidy
    · have shorter := length_clean_lt tidy
      exact ih (clean text) (by omega)

/-- Cleaning takes characters of the output away and nothing else. A second cleaning changes nothing
exactly when the first has left no layer: no blank at the ends, no closed block of reasoning, no
fence at either end, and no delimiters around the rest. Repeated cleaning comes to such a text. -/
theorem clean_clean_eq_iff (output : Text) :
    (clean output).Sublist output ∧ (clean output).strip = clean output ∧
      (clean (clean output) = clean output ↔ Tidy (clean output)) ∧
      ∀ count, output.length ≤ count →
        Tidy (clean^[count] output) ∧ clean (clean^[count] output) = clean^[count] output := by
  refine ⟨shrinks_clean output, strip_clean output, clean_eq_self_iff, fun count enough => ?_⟩
  have tidy := tidy_iterate output enough
  exact ⟨tidy, clean_eq_self_iff.mpr tidy⟩

/-- Delimiters within delimiters, a fence within a fence, marks that share a dollar sign, and a
block of reasoning in the middle of an opening mark each leave a layer for a second cleaning. -/
theorem not_clean_clean_layered :
    clean "$$ $x$ $$".toList = "$x$".toList ∧ clean "$x$".toList = "x".toList ∧
      clean "```\n```tex\nx\n```\n```".toList = "```tex\nx\n```".toList ∧
      clean "```tex\nx\n```".toList = "x".toList ∧
      clean "$$$".toList = "$".toList ∧ clean "$".toList = [] ∧
      clean "<thi<think></think>nk>a</think>x".toList = "<think>a</think>x".toList ∧
      clean "<think>a</think>x".toList = "x".toList ∧
      ¬ ∀ output, clean (clean output) = clean output := by
  have layered : clean "$$ $x$ $$".toList = "$x$".toList := by decide +kernel
  have inner : clean "$x$".toList = "x".toList := by decide +kernel
  refine ⟨layered, inner, by decide +kernel, by decide +kernel, by decide +kernel,
    by decide +kernel, by decide +kernel, by decide +kernel, fun settled => ?_⟩
  have again := settled "$$ $x$ $$".toList
  rw [layered, inner] at again
  exact absurd again (by decide)

end FormulaRepair.Cleaning
