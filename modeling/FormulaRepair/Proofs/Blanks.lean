import FormulaRepair.Text.Blank
import Mathlib.Data.List.DropRight
import Mathlib.Data.List.TakeWhile

/-! # Texts without blanks at their ends

Removing the blanks at both ends of a text leaves none there, so that doing it again changes
nothing.
-/

namespace FormulaRepair.Text

theorem stripLeft_eq_self_iff {text : Text} :
    text.stripLeft = text ↔
      ∀ nonempty : text ≠ [], FormulaRepair.isBlank (text.head nonempty) = false := by
  rw [stripLeft, List.dropWhile_eq_self_iff]
  cases text with
  | nil => simp
  | cons first text => simp

theorem stripRight_prefix (text : Text) : text.stripRight <+: text :=
  List.rdropWhile_prefix FormulaRepair.isBlank text

theorem stripRight_stripRight (text : Text) : text.stripRight.stripRight = text.stripRight :=
  List.rdropWhile_idempotent FormulaRepair.isBlank text

theorem stripLeft_stripLeft (text : Text) : text.stripLeft.stripLeft = text.stripLeft :=
  List.dropWhile_idempotent FormulaRepair.isBlank text

/-- What is removed behind a text without leading blanks brings no blank to its front. -/
theorem stripLeft_stripRight {text : Text} (bare : text.stripLeft = text) :
    text.stripRight.stripLeft = text.stripRight := by
  refine stripLeft_eq_self_iff.mpr fun nonempty => ?_
  rw [text.stripRight_prefix.head nonempty]
  exact stripLeft_eq_self_iff.mp bare _

theorem stripRight_eq_self_iff {text : Text} :
    text.stripRight = text ↔
      ∀ nonempty : text ≠ [], FormulaRepair.isBlank (text.getLast nonempty) = false := by
  change text.rdropWhile FormulaRepair.isBlank = text ↔ _
  simp only [List.rdropWhile_eq_self_iff, Bool.not_eq_true]

@[simp] theorem strip_strip (text : Text) : text.strip.strip = text.strip := by
  change text.strip.stripLeft.stripRight = text.strip
  rw [strip, stripLeft_stripRight text.stripLeft_stripLeft, stripRight_stripRight]

theorem strip_eq_self_iff {text : Text} :
    text.strip = text ↔ text.stripLeft = text ∧ text.stripRight = text := by
  refine ⟨fun bare => ⟨?_, ?_⟩, fun ⟨left, right⟩ => by rw [strip, left, right]⟩
  · rw [← bare, strip, stripLeft_stripRight text.stripLeft_stripLeft]
  · rw [← bare, strip, stripRight_stripRight]

/-- A text that begins and ends with characters that are not blank is left as it is. -/
theorem strip_eq_self_of_ends {first last : Char} {text : Text}
    (starts : text.head? = some first) (unspaced : FormulaRepair.isBlank first = false)
    (ends : text.getLast? = some last) (solid : FormulaRepair.isBlank last = false) :
    text.strip = text := by
  refine strip_eq_self_iff.mpr ⟨stripLeft_eq_self_iff.mpr fun nonempty => ?_,
    stripRight_eq_self_iff.mpr fun nonempty => ?_⟩
  · rwa [List.head_of_head?_eq_some starts]
  · rwa [List.getLast_of_getLast?_eq_some ends]

theorem stripLeft_append_of_isBlank {blanks : Text} (blank : blanks.isBlank = true) (text : Text) :
    (blanks ++ text).stripLeft = text.stripLeft :=
  List.dropWhile_append_of_pos (List.all_eq_true.mp blank)

theorem stripRight_append_of_isBlank {blanks : Text} (blank : blanks.isBlank = true) (text : Text) :
    (text ++ blanks).stripRight = text.stripRight := by
  rw [stripRight, List.reverse_append, List.dropWhile_append_of_pos, stripRight]
  exact fun c member => List.all_eq_true.mp blank c (List.mem_reverse.mp member)

theorem stripLeft_append {text : Text} (nonempty : text ≠ []) (bare : text.stripLeft = text)
    (rest : Text) : (text ++ rest).stripLeft = text ++ rest := by
  refine stripLeft_eq_self_iff.mpr fun _ => ?_
  rw [List.head_append_of_ne_nil nonempty]
  exact stripLeft_eq_self_iff.mp bare nonempty

/-- Blanks around a text without blanks at its ends are all that is removed from it. -/
theorem strip_between {left text right : Text} (before : left.isBlank = true)
    (bare : text.strip = text) (behind : right.isBlank = true) :
    (left ++ text ++ right).strip = text := by
  obtain ⟨leftBare, rightBare⟩ := strip_eq_self_iff.mp bare
  rw [strip, List.append_assoc, stripLeft_append_of_isBlank before]
  by_cases empty : text = []
  · subst empty
    rw [← List.append_nil right, List.nil_append, stripLeft_append_of_isBlank behind]
    rfl
  · rw [stripLeft_append empty leftBare, stripRight_append_of_isBlank behind, rightBare]

end FormulaRepair.Text
