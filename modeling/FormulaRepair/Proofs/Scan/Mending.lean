import FormulaRepair.Proofs.Scan.Reading
import Mathlib.Data.List.Infix
import Mathlib.Data.List.TakeWhile

/-! # Contents that leave the text around them alone

Another content in the place of a formula shifts everything behind it and changes what every search
for a closing mark meets on its way. Reading is not disturbed as long as the new content brings no mark
of its own. What a piece needs to know about the text behind it then stays the same: how that text
begins, and which closing marks do not occur in it.
-/

namespace FormulaRepair

namespace Delimiter

/-- A content that can stand between the marks wherever they occur. -/
structure Accepts (delimiter : Delimiter) (content : Text) : Prop where
  stripped : content.strip = content
  noDollar : '$' ∉ content
  noParen : ¬ ['\\', ')'] <:+: content
  noBracket : ¬ ['\\', ']'] <:+: content
  noBackslash : content.getLast? ≠ some '\\'
  single : delimiter = .inlineDollar → content ≠ [] ∧ Scan.startsWithDigit content = false

instance (delimiter : Delimiter) (content : Text) : Decidable (delimiter.Accepts content) :=
  decidable_of_iff
    (content.strip = content ∧ '$' ∉ content ∧ ¬ ['\\', ')'] <:+: content ∧
      ¬ ['\\', ']'] <:+: content ∧ content.getLast? ≠ some '\\' ∧
      (delimiter = .inlineDollar → content ≠ [] ∧ Scan.startsWithDigit content = false))
    ⟨fun ⟨stripped, dollar, paren, bracket, last, single⟩ =>
        ⟨stripped, dollar, paren, bracket, last, single⟩,
      fun ⟨stripped, dollar, paren, bracket, last, single⟩ =>
        ⟨stripped, dollar, paren, bracket, last, single⟩⟩

end Delimiter

private theorem Text.strip_of_isBlank {text : Text} (blank : text.isBlank = true) :
    text.strip = [] := by
  have left : text.stripLeft = [] :=
    List.dropWhile_eq_nil_iff.mpr fun c member => List.all_eq_true.mp blank c member
  rw [strip, left]
  rfl

theorem Text.isChain_apart_iff {first second : Char} {text : Text} :
    text.IsChain (Text.Apart first second) ↔ ¬ [first, second] <:+: text := by
  rw [← Text.splitFirst?_pair_eq_none_iff, Text.splitFirst?_eq_none_iff]

namespace Delimiter

private theorem isChain_passes_of_not_mem {text : Text} (absent : '$' ∉ text)
    {delimiter : Delimiter} (dollar : delimiter = inlineDollar ∨ delimiter = blockDollar) :
    text.IsChain delimiter.Passes := by
  rw [List.isChain_iff_forall_rel_of_append_cons_cons]
  intro a b before after same
  have other : b ≠ '$' := by
    rintro rfl
    exact absent (by rw [same]; simp)
  rcases dollar with rfl | rfl
  · exact fun dollar => absurd dollar other
  · exact fun ⟨_, dollar⟩ => other dollar

section Wrapping

variable {delimiter : Delimiter} {content : Text}

theorem Accepts.encloses (accepts : delimiter.Accepts content) : delimiter.Encloses content := by
  obtain ⟨stripped, noDollar, noParen, noBracket, noBackslash, single⟩ := accepts
  have closes {first second : Char} (ordinary : ¬ [first, second] <:+: content)
      (last : content.getLast? ≠ some first ∨ first ≠ second) :
      Text.EndsFirst [first, second] content := by
    refine Text.endsFirst_pair_iff.mpr (List.isChain_append.mpr ⟨?_, List.isChain_singleton _, ?_⟩)
    · exact Text.isChain_apart_iff.mpr ordinary
    · rintro a found b mark ⟨rfl, rfl⟩
      cases mark
      exact last.elim (fun differs => differs found) (fun differs => differs rfl)
  cases delimiter with
  | inlineDollar =>
    obtain ⟨nonempty, noDigit⟩ := single rfl
    refine ⟨?_, noDigit, ?_, noBackslash⟩
    · rw [← Bool.not_eq_true]
      intro blank
      rw [Text.strip_of_isBlank blank] at stripped
      exact nonempty stripped.symm
    · rintro before after rfl
      simp at noDollar
  | blockDollar =>
    refine closes (fun pair => noDollar (pair.subset (List.mem_cons_self ..))) (.inl fun last => ?_)
    exact noDollar (List.mem_of_getLast? last)
  | inlineParen => exact closes noParen (.inr (by decide))
  | blockBracket => exact closes noBracket (.inr (by decide))

/-- A bracket mark is met around a new content only where it is the closing mark itself. -/
private theorem isChain_wrap_bracket {mark : Char} (bracket : mark = ')' ∨ mark = ']')
    (ordinary : ¬ ['\\', mark] <:+: content)
    (closes : delimiter.closer.IsChain (Text.Apart '\\' mark)) :
    (delimiter.wrap content).IsChain (Text.Apart '\\' mark) := by
  have opens : delimiter.opener.IsChain (Text.Apart '\\' mark) := by
    rcases bracket with rfl | rfl <;> cases delimiter <;> decide
  have inner := Text.isChain_apart_iff.mpr ordinary
  refine List.isChain_append.mpr ⟨List.isChain_append.mpr ⟨opens, inner, ?_⟩, closes, ?_⟩
  · rintro a last b - ⟨rfl, -⟩
    cases delimiter <;> cases last
  · rintro a - b first ⟨-, rfl⟩
    rcases bracket with rfl | rfl <;> cases delimiter <;> cases first

/-- Around a new content, a search for a closing mark passes wherever it did around the old one. -/
theorem Accepts.isChain_wrap {old : Text} (accepts : delimiter.Accepts content)
    (encloses : delimiter.Encloses old) {searched : Delimiter}
    (passes : (delimiter.wrap old).IsChain searched.Passes) :
    (delimiter.wrap content).IsChain searched.Passes := by
  have opens : delimiter.opener.IsChain searched.Passes := passes.left_of_append.left_of_append
  have closes : delimiter.closer.IsChain searched.Passes := passes.right_of_append
  have noDollar (double : delimiter = inlineParen ∨ delimiter = blockBracket) :
      '$' ∉ delimiter.wrap content := by
    rcases double with rfl | rfl <;> simp [wrap, opener, closer, accepts.noDollar]
  cases searched with
  | inlineParen => exact isChain_wrap_bracket (.inl rfl) accepts.noParen closes
  | blockBracket => exact isChain_wrap_bracket (.inr rfl) accepts.noBracket closes
  | inlineDollar =>
    cases delimiter with
    -- The search ends at the closing dollar sign of the old content, so it cannot have passed.
    | inlineDollar =>
      obtain ⟨filled, -, -, last⟩ := encloses
      have nonempty : old ≠ [] := by rintro rfl; cases filled
      obtain ⟨-, -, met⟩ := List.isChain_append.mp passes
      refine absurd (met (old.getLast nonempty) ?_ '$' rfl rfl) fun backslash => last ?_
      · rw [List.getLast?_append_of_ne_nil _ nonempty]
        exact List.getLast?_eq_some_getLast nonempty
      · rw [List.getLast?_eq_some_getLast nonempty, backslash]
    | blockDollar => exact absurd opens (by decide)
    | inlineParen => exact isChain_passes_of_not_mem (noDollar (.inl rfl)) (.inl rfl)
    | blockBracket => exact isChain_passes_of_not_mem (noDollar (.inr rfl)) (.inl rfl)
  | blockDollar =>
    cases delimiter with
    | inlineDollar =>
      obtain ⟨nonempty, -⟩ := accepts.single rfl
      have inner := isChain_passes_of_not_mem accepts.noDollar (.inr rfl)
      refine List.isChain_append.mpr ⟨List.isChain_append.mpr ⟨opens, inner, ?_⟩, closes, ?_⟩
      · rintro a - b first ⟨-, rfl⟩
        exact accepts.noDollar (List.mem_of_mem_head? first)
      · rintro a last b - ⟨rfl, -⟩
        rw [List.getLast?_append_of_ne_nil _ nonempty] at last
        exact accepts.noDollar (List.mem_of_getLast? last)
    | blockDollar => exact absurd opens (by decide)
    | inlineParen => exact isChain_passes_of_not_mem (noDollar (.inl rfl)) (.inr rfl)
    | blockBracket => exact isChain_passes_of_not_mem (noDollar (.inr rfl)) (.inr rfl)

end Wrapping

end Delimiter

namespace Scan

/-- As far as a piece in front of them is concerned, the two texts are the same: they begin alike, and
closing marks that do not occur in the old one do not occur in the new one. -/
structure Alike (old new : Text) : Prop where
  head : new.head? = old.head?
  ticks : ∀ mark, (∀ c ∈ mark, c = '`') → (mark <+: new ↔ mark <+: old)
  passes : ∀ searched : Delimiter, old.IsChain searched.Passes → new.IsChain searched.Passes

namespace Alike

variable {old new : Text}

theorem refl (text : Text) : Alike text text := ⟨rfl, fun _ _ => Iff.rfl, fun _ passes => passes⟩

theorem cons (first : Char) (alike : Alike old new) : Alike (first :: old) (first :: new) where
  head := rfl
  ticks mark isTicks := by
    cases mark with
    | nil => simp
    | cons tick mark =>
      rw [List.cons_prefix_cons, List.cons_prefix_cons,
        alike.ticks mark fun c member => isTicks c (List.mem_cons_of_mem _ member)]
  passes searched passes := by
    have junction := (List.isChain_cons.mp passes).1
    rw [← alike.head] at junction
    exact List.isChain_cons.mpr ⟨junction, alike.passes searched passes.tail⟩

theorem append (front : Text) (alike : Alike old new) : Alike (front ++ old) (front ++ new) := by
  induction front with
  | nil => exact alike
  | cons first front ih => exact ih.cons first

/-- A formula may get another content that its delimiters accept. -/
theorem wrap {delimiter : Delimiter} {content replaced : Text} (encloses : delimiter.Encloses content)
    (accepts : delimiter.Accepts replaced) (alike : Alike old new) :
    Alike (delimiter.wrap content ++ old) (delimiter.wrap replaced ++ new) where
  head := by cases delimiter <;> rfl
  ticks mark isTicks := by
    cases mark with
    | nil => simp
    | cons tick mark =>
      rw [isTicks tick (List.mem_cons_self ..)]
      cases delimiter <;> simp [Delimiter.wrap, Delimiter.opener]
  passes searched passes := by
    obtain ⟨front, rest, junction⟩ := List.isChain_append.mp passes
    refine List.isChain_append.mpr
      ⟨accepts.isChain_wrap encloses front, alike.passes searched rest, ?_⟩
    have last : (delimiter.wrap replaced).getLast? = (delimiter.wrap content).getLast? := by
      cases delimiter <;> simp [Delimiter.wrap, Delimiter.closer]
    rwa [last, alike.head]

theorem startsWithDigit (alike : Alike old new) : startsWithDigit new = startsWithDigit old := by
  have head := alike.head
  cases old <;> cases new <;> simp_all [Scan.startsWithDigit]

theorem unclosed (alike : Alike old new) {delimiter : Delimiter}
    (unclosed : delimiter.Unclosed old) : delimiter.Unclosed new := by
  cases delimiter with
  | inlineDollar =>
    obtain ⟨passes, noDigit⟩ := unclosed
    exact ⟨(alike.cons '$').passes .inlineDollar passes, alike.startsWithDigit.trans noDigit⟩
  | blockDollar | inlineParen | blockBracket => exact alike.passes _ unclosed

end Alike

/-- A piece is read in front of another text as well, when that text is like the one behind it. -/
theorem Reads.of_alike {mode next : Mode} {taken old new : Text} {reading : Reading}
    (reads : Reads mode ⟨taken, old, next, reading⟩) (alike : Alike old new) :
    Reads mode ⟨taken, new, next, reading⟩ := by
  have pair := alike.ticks ['`', '`'] (by simp)
  cases reads with
  | openFence => exact .openFence new
  | openTick _ alone => exact .openTick new (mt pair.mp alone)
  | lastBackslash =>
    have none : new = [] := List.head?_eq_none_iff.mp alike.head
    exact none ▸ .lastBackslash
  | escape _ ordinary => exact .escape new ordinary
  | unclosed _ unclosed => exact .unclosed new (alike.unclosed unclosed)
  | formula _ encloses => exact .formula new encloses
  | currency _ digit => exact .currency new (alike.startsWithDigit.trans digit)
  | blank _ blank nonempty => exact .blank new blank nonempty
  | plain _ tick backslash dollar => exact .plain new tick backslash dollar
  | closeFence => exact .closeFence new
  | fencedCode _ nonempty first fence =>
    exact .fencedCode new nonempty first ((alike.ticks codeFence (by simp [codeFence])).mpr fence)
  | tickRun _ run => exact .tickRun new (pair.mpr run)
  | closeTick _ alone => exact .closeTick new (mt pair.mp alone)
  | inlineCode _ nonempty noTick tick =>
    exact .inlineCode new nonempty noTick ((alike.ticks ['`'] (by simp)).mpr tick)

end Scan

end FormulaRepair
