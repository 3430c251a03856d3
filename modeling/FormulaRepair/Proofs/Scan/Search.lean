import FormulaRepair.Text.Basic
import Mathlib.Data.List.Chain

/-! # First occurrences of a mark

Searching a text for a mark splits it at the first occurrence. Whether an occurrence is the first one
is a matter of what lies before it and of the mark alone: nothing behind the mark can change it. A
mark of two characters is met where two neighbours are its characters, so that its absence is a
property of all neighbours in the text.
-/

namespace FormulaRepair.Text

/-- In the text with the mark behind it, no occurrence of the mark starts inside the text. -/
def EndsFirst (mark text : Text) : Prop :=
  ∀ before after, text ++ mark = before ++ mark ++ after → text.length ≤ before.length

theorem dropPrefix?_eq_none_iff {mark text : Text} :
    dropPrefix? mark text = none ↔ ¬ mark <+: text := by
  constructor
  · rintro absent ⟨rest, rfl⟩
    rw [dropPrefix?_eq_some_iff.mpr rfl] at absent
    cases absent
  · intro absent
    cases result : dropPrefix? mark text with
    | none => rfl
    | some rest => exact (absent ⟨rest, (dropPrefix?_eq_some_iff.mp result).symm⟩).elim

theorem isSome_dropPrefix?_iff {mark text : Text} :
    (dropPrefix? mark text).isSome ↔ mark <+: text := by
  rw [← not_iff_not, ← dropPrefix?_eq_none_iff, Bool.not_eq_true, Option.isSome_eq_false_iff,
    Option.isNone_iff_eq_none]

theorem dropSuffix?_eq_some_iff {mark text rest : Text} :
    dropSuffix? mark text = some rest ↔ text = rest ++ mark := by
  rw [dropSuffix?, Option.map_eq_some_iff]
  constructor
  · rintro ⟨reversed, found, rfl⟩
    have whole := congrArg List.reverse (dropPrefix?_eq_some_iff.mp found)
    simpa using whole
  · rintro rfl
    exact ⟨rest.reverse, dropPrefix?_eq_some_iff.mpr (by simp), List.reverse_reverse rest⟩

theorem dropSuffix?_eq_none_iff {mark text : Text} :
    dropSuffix? mark text = none ↔ ¬ mark <:+ text := by
  rw [dropSuffix?, Option.map_eq_none_iff, dropPrefix?_eq_none_iff, List.reverse_prefix]

@[simp] theorem endsFirst_nil (mark : Text) : EndsFirst mark [] := fun _ _ _ => Nat.zero_le _

/-- No occurrence starts inside a longer text when none starts at its front and none inside its
tail. -/
theorem endsFirst_cons {mark text : Text} {first : Char} :
    EndsFirst mark (first :: text) ↔
      ¬ mark <+: first :: (text ++ mark) ∧ EndsFirst mark text := by
  constructor
  · intro only
    refine ⟨?_, fun before after same => ?_⟩
    · rintro ⟨after, same⟩
      have bound := only [] after (by simpa using same.symm)
      simp at bound
    · have bound := only (first :: before) after (by simpa using same)
      simpa using bound
  · rintro ⟨absent, only⟩ before after same
    cases before with
    | nil => exact (absent ⟨after, by simpa using same.symm⟩).elim
    | cons head before =>
      simp only [List.cons_append, List.cons.injEq] at same
      have bound := only before after same.2
      simpa using bound

/-- No occurrence starts inside a text without the first character of the mark. -/
theorem endsFirst_of_notMem {first : Char} {mark text : Text} (absent : first ∉ text) :
    EndsFirst (first :: mark) text := by
  induction text with
  | nil => exact endsFirst_nil _
  | cons head text ih =>
    rw [List.mem_cons, not_or] at absent
    refine endsFirst_cons.mpr ⟨fun starts => absent.1 ?_, ih absent.2⟩
    exact (List.cons_prefix_cons.mp starts).1

/-- What lies before the first occurrence, and nothing else, decides that it is the first one. -/
theorem splitFirst?_eq_some_iff {mark text before after : Text} :
    splitFirst? mark text = some (before, after) ↔
      text = before ++ mark ++ after ∧ EndsFirst mark before := by
  induction text generalizing before with
  | nil =>
    rw [splitFirst?, Option.map_eq_some_iff]
    constructor
    · rintro ⟨rest, here, same⟩
      cases same
      exact ⟨by simpa using dropPrefix?_eq_some_iff.mp here, endsFirst_nil mark⟩
    · rintro ⟨whole, -⟩
      simp only [List.nil_eq, List.append_eq_nil_iff] at whole
      obtain ⟨⟨rfl, rfl⟩, rfl⟩ := whole
      exact ⟨[], rfl, rfl⟩
  | cons first text ih =>
    rw [splitFirst?]
    cases here : dropPrefix? mark (first :: text) with
    | some rest =>
      have front := dropPrefix?_eq_some_iff.mp here
      simp only [Option.some.injEq, Prod.mk.injEq]
      constructor
      · rintro ⟨rfl, rfl⟩
        exact ⟨front, endsFirst_nil mark⟩
      · rintro ⟨whole, only⟩
        cases before with
        | nil => exact ⟨rfl, List.append_cancel_left (front.symm.trans whole)⟩
        | cons head before =>
          have starts : mark <+: head :: before ++ mark := by
            refine List.prefix_of_prefix_length_le ⟨rest, front.symm⟩ ⟨after, whole.symm⟩ ?_
            simp only [List.cons_append, List.length_cons, List.length_append]
            omega
          exact ((endsFirst_cons.mp only).1 starts).elim
    | none =>
      have absent := dropPrefix?_eq_none_iff.mp here
      simp only [Option.map_eq_some_iff, Prod.mk.injEq]
      constructor
      · rintro ⟨⟨inner, tail⟩, later, rfl, rfl⟩
        obtain ⟨whole, only⟩ := ih.mp later
        refine ⟨by rw [whole]; rfl, endsFirst_cons.mpr ⟨fun starts => absent ?_, only⟩⟩
        rw [whole]
        exact starts.trans ⟨tail, rfl⟩
      · rintro ⟨whole, only⟩
        cases before with
        | nil => exact (absent ⟨after, whole.symm⟩).elim
        | cons head before =>
          simp only [List.cons_append, List.cons.injEq] at whole
          obtain ⟨rfl, rfl⟩ := whole
          exact ⟨(before, after), ih.mpr ⟨by simp, (endsFirst_cons.mp only).2⟩, rfl, rfl⟩

instance (mark text : Text) : Decidable (EndsFirst mark text) :=
  decidable_of_iff (splitFirst? mark (text ++ mark) = some (text, [])) (by
    rw [splitFirst?_eq_some_iff, List.append_nil, and_iff_right rfl])

/-- A search fails exactly when the mark occurs nowhere. -/
theorem splitFirst?_eq_none_iff {mark text : Text} :
    splitFirst? mark text = none ↔ ¬ mark <:+: text := by
  induction text with
  | nil =>
    rw [splitFirst?, Option.map_eq_none_iff, dropPrefix?_eq_none_iff, List.infix_nil,
      List.prefix_nil]
  | cons first text ih =>
    rw [splitFirst?, List.infix_cons_iff, not_or, ← ih, ← dropPrefix?_eq_none_iff]
    cases dropPrefix? mark (first :: text) <;> simp

theorem endsFirst_singleton_iff {mark : Char} {text : Text} :
    EndsFirst [mark] text ↔ mark ∉ text := by
  induction text with
  | nil => simp
  | cons first text ih => simp [endsFirst_cons, ih]

/-- Two neighbours are not the two characters of a mark. -/
def Apart (first second : Char) (a b : Char) : Prop := ¬ (a = first ∧ b = second)

instance (first second : Char) : DecidableRel (Apart first second) := fun a b =>
  inferInstanceAs (Decidable (¬ (a = first ∧ b = second)))

/-- An occurrence of two characters that starts inside a text has both of them in the text and the
character behind it. -/
theorem endsFirst_pair_iff {first second : Char} {text : Text} :
    EndsFirst [first, second] text ↔ (text ++ [first]).IsChain (Apart first second) := by
  rw [List.isChain_iff_forall_rel_of_append_cons_cons]
  constructor
  · rintro only a b before after same ⟨rfl, rfl⟩
    have bound := only before (after ++ [b])
      (by simpa using congrArg (· ++ [b]) same)
    have lengths := congrArg List.length same
    simp only [List.length_append, List.length_cons, List.length_nil] at lengths
    omega
  · intro apart before after same
    obtain rfl | ⟨init, last, rfl⟩ := List.eq_nil_or_concat after
    · have lengths := congrArg List.length same
      simp only [List.length_append, List.length_cons, List.length_nil] at lengths
      omega
    · have shorter : text ++ [first] = before ++ first :: second :: init := by
        have whole : (text ++ [first]) ++ [second] = (before ++ first :: second :: init) ++ [last] := by
          simpa using same
        exact (List.append_inj' whole rfl).1
      exact (apart shorter ⟨rfl, rfl⟩).elim

theorem splitFirst?_pair_eq_none_iff {first second : Char} {text : Text} :
    splitFirst? [first, second] text = none ↔ text.IsChain (Apart first second) := by
  rw [splitFirst?_eq_none_iff, List.isChain_iff_forall_rel_of_append_cons_cons]
  constructor
  · rintro absent a b before after same ⟨rfl, rfl⟩
    exact absent ⟨before, after, by simpa using same.symm⟩
  · rintro apart ⟨before, after, rfl⟩
    have absent := @apart first second before after (by simp)
    exact absent ⟨rfl, rfl⟩

end FormulaRepair.Text
