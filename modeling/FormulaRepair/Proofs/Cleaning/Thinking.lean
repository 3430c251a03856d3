import FormulaRepair.Cleaning
import Mathlib.Data.List.Forall2

/-! # Closed reasoning around an answer

A mark may be spelled in any case. A text in which it does not occur is passed over together with
whatever follows, as long as that cannot complete the mark; and a closed block of reasoning vanishes
whatever follows. So blanks and closed blocks around an answer leave only the blanks.
-/

namespace FormulaRepair.Cleaning

section Letters

variable {small c : Char}

private theorem toLower_of_isBlank (blank : isBlank c = true) : c.toLower = c := by
  refine dif_neg fun upper => ?_
  have above : 0x41 ≤ c.toNat := UInt32.le_iff_toNat_le.mp upper.1
  have below : c.toNat ≤ 0x5a := UInt32.le_iff_toNat_le.mp upper.2
  simp only [isBlank, Bool.or_eq_true, Bool.and_eq_true, decide_eq_true_eq, beq_iff_eq] at blank
  omega

/-- A blank counts as none of the letters that are not blank. -/
theorem sameLetter_eq_false_of_isBlank (blank : isBlank c = true) (solid : isBlank small = false) :
    sameLetter small c = false := by
  have other : ∀ letter, isBlank letter = false → (c == letter) = false := by
    intro letter solid
    refine beq_eq_false_iff_ne.mpr fun same => ?_
    rw [← same, blank] at solid
    cases solid
  rw [sameLetter, toLower_of_isBlank blank, other small solid, other '\u212a' (by decide),
    other '\u0130' (by decide), other '\u0131' (by decide)]
  simp

theorem sameLetter_iff (notK : small ≠ 'k') (notI : small ≠ 'i') :
    sameLetter small c = true ↔ c.toLower = small := by
  simp [sameLetter, notK, notI]

/-- A sign that comes before the small letters counts only as itself. -/
theorem eq_of_sameLetter (before : small.toNat < 0x61) (same : sameLetter small c = true) :
    c = small := by
  have notK : small ≠ 'k' := by rintro rfl; exact absurd before (by decide)
  have notI : small ≠ 'i' := by rintro rfl; exact absurd before (by decide)
  rw [sameLetter_iff notK notI] at same
  by_cases upper : c.val ≥ 'A'.val ∧ c.val ≤ 'Z'.val
  · -- The small letter of a capital is no such sign.
    have first : 0x41 ≤ c.val.toNat := UInt32.le_iff_toNat_le.mp upper.1
    have last : c.val.toNat ≤ 0x5a := UInt32.le_iff_toNat_le.mp upper.2
    have lowered : c.toLower.toNat = (c.val.toNat + 0x20) % 2 ^ 32 :=
      congrArg Char.toNat (dif_pos upper)
    rw [same] at lowered
    omega
  · exact (dif_neg upper).symm.trans same

end Letters

/-- A text spells a mark of small letters in any case. -/
def Spells (mark found : Text) : Prop :=
  List.Forall₂ (fun small letter => sameLetter small letter = true) mark found

instance (mark found : Text) : Decidable (Spells mark found) :=
  inferInstanceAs (Decidable (List.Forall₂ _ mark found))

/-- A mark occurs in a text in any case. -/
def Occurs (mark text : Text) : Prop :=
  ∃ before found after, text = before ++ found ++ after ∧ Spells mark found

/-- With what comes first here, no mark goes on that has begun before. -/
def Breaks (mark rest : Text) : Prop :=
  ∀ c ∈ rest.head?, ∀ letter ∈ mark.tail, sameLetter letter c = false

theorem dropPrefixAnyCase?_eq_some_iff {mark text rest : Text} :
    dropPrefixAnyCase? mark text = some rest ↔ ∃ found, text = found ++ rest ∧ Spells mark found := by
  induction mark generalizing text with
  | nil => simp [dropPrefixAnyCase?, Spells]
  | cons wanted mark ih =>
    simp only [Spells, List.forall₂_cons_left_iff] at ih ⊢
    cases text with
    | nil => simp [dropPrefixAnyCase?]
    | cons first text =>
      rw [dropPrefixAnyCase?]
      split
      · next same =>
        rw [ih]
        constructor
        · rintro ⟨found, rfl, spelled⟩
          exact ⟨first :: found, rfl, first, found, same, spelled, rfl⟩
        · rintro ⟨_, whole, letter, found, -, spelled, rfl⟩
          cases whole
          exact ⟨found, rfl, spelled⟩
      · next other =>
        constructor
        · intro found
          cases found
        · rintro ⟨_, whole, letter, found, same, -, rfl⟩
          cases whole
          exact absurd same other

theorem Spells.exists_letter {mark found : Text} (spelled : Spells mark found) {c : Char}
    (member : c ∈ found) : ∃ letter ∈ mark, sameLetter letter c = true := by
  induction spelled with
  | nil => cases member
  | cons same later ih =>
    rcases List.mem_cons.mp member with rfl | member
    · exact ⟨_, List.mem_cons_self, same⟩
    · obtain ⟨letter, listed, same⟩ := ih member
      exact ⟨letter, List.mem_cons_of_mem _ listed, same⟩

theorem dropPrefixAnyCase?_append {mark found : Text} (spelled : Spells mark found) (rest : Text) :
    dropPrefixAnyCase? mark (found ++ rest) = some rest :=
  dropPrefixAnyCase?_eq_some_iff.mpr ⟨found, rfl, spelled⟩

theorem occurs_cons {mark text : Text} {first : Char} :
    Occurs mark (first :: text) ↔
      dropPrefixAnyCase? mark (first :: text) ≠ none ∨ Occurs mark text := by
  rw [Option.ne_none_iff_exists']
  simp only [dropPrefixAnyCase?_eq_some_iff]
  constructor
  · rintro ⟨before, found, after, whole, spelled⟩
    cases before with
    | nil => exact .inl ⟨after, found, whole, spelled⟩
    | cons head before =>
      cases whole
      exact .inr ⟨before, found, after, rfl, spelled⟩
  · rintro (⟨after, found, whole, spelled⟩ | ⟨before, found, after, rfl, spelled⟩)
    · exact ⟨[], found, after, whole, spelled⟩
    · exact ⟨first :: before, found, after, rfl, spelled⟩

theorem afterFirstAnyCase?_eq_none_iff {mark text : Text} :
    afterFirstAnyCase? mark text = none ↔ ¬ Occurs mark text := by
  induction text with
  | nil =>
    rw [afterFirstAnyCase?, ← not_iff_not, not_not, ← ne_eq, Option.ne_none_iff_exists']
    simp only [dropPrefixAnyCase?_eq_some_iff]
    constructor
    · rintro ⟨rest, found, whole, spelled⟩
      exact ⟨[], found, rest, whole, spelled⟩
    · rintro ⟨before, found, after, whole, spelled⟩
      obtain ⟨rfl, rfl, rfl⟩ : before = [] ∧ found = [] ∧ after = [] := by simpa using whole.symm
      exact ⟨[], [], rfl, spelled⟩
  | cons first text ih =>
    rw [afterFirstAnyCase?, occurs_cons, not_or, ← ih, not_not]
    cases dropPrefixAnyCase? mark (first :: text) <;> simp

private theorem afterFirstAnyCase?_of_dropPrefixAnyCase? {mark text rest : Text}
    (begins : dropPrefixAnyCase? mark text = some rest) :
    afterFirstAnyCase? mark text = some rest := by
  cases text with
  | nil => exact begins
  | cons first text => rw [afterFirstAnyCase?, begins]

instance (mark text : Text) : Decidable (Occurs mark text) :=
  decidable_of_iff (afterFirstAnyCase? mark text ≠ none) (by
    rw [ne_eq, afterFirstAnyCase?_eq_none_iff, not_not])

/-- A mark that does not occur in a text does not begin there when what follows cannot go on with
it. -/
theorem dropPrefixAnyCase?_append_eq_none {mark part rest : Text} (nonempty : part ≠ [])
    (absent : ¬ Occurs mark part) (breaks : Breaks mark rest) :
    dropPrefixAnyCase? mark (part ++ rest) = none := by
  refine Option.eq_none_iff_forall_ne_some.mpr fun after begins => ?_
  obtain ⟨found, whole, spelled⟩ := dropPrefixAnyCase?_eq_some_iff.mp begins
  rcases List.append_eq_append_iff.mp whole with ⟨begun, rfl, rfl⟩ | ⟨behind, rfl, rfl⟩
  · cases begun with
    | nil => exact absent ⟨[], part, [], by simp, by simpa using spelled⟩
    | cons c begun =>
      -- The letter of the mark for `c` stands behind the ones for `part`.
      have remaining := List.forall₂_drop_append _ _ _ spelled
      obtain ⟨letter, later, same, -, behind⟩ := List.forall₂_cons_right_iff.mp remaining
      have member : letter ∈ mark.tail := by
        cases mark with
        | nil => simp at behind
        | cons first mark =>
          obtain ⟨head, part, rfl⟩ := List.exists_cons_of_ne_nil nonempty
          refine List.mem_of_mem_drop (i := part.length) ?_
          rw [List.length_cons, List.drop_succ_cons] at behind
          rw [List.tail_cons, behind]
          exact List.mem_cons_self
      rw [breaks c rfl letter member] at same
      cases same
  · exact absent ⟨[], found, behind, rfl, spelled⟩

theorem not_occurs_tail {mark text : Text} {first : Char} (absent : ¬ Occurs mark (first :: text)) :
    ¬ Occurs mark text := fun occurs => absent (occurs_cons.mpr (.inr occurs))

private theorem afterFirstAnyCase?_append {mark text rest : Text} (absent : ¬ Occurs mark text)
    (breaks : Breaks mark rest) :
    afterFirstAnyCase? mark (text ++ rest) = afterFirstAnyCase? mark rest := by
  induction text with
  | nil => rfl
  | cons first text ih =>
    have here := dropPrefixAnyCase?_append_eq_none (List.cons_ne_nil first text) absent breaks
    rw [List.cons_append] at here ⊢
    rw [afterFirstAnyCase?, here]
    exact ih (not_occurs_tail absent)

theorem withoutThinking_of_dropThinking? {text rest : Text} (found : dropThinking? text = some rest) :
    withoutThinking text = withoutThinking rest := by
  cases text with
  | nil => cases found
  | cons first text =>
    rw [withoutThinking]
    split
    · next after here => rw [Option.some.inj (here.symm.trans found)]
    · next none => rw [none] at found; cases found

theorem withoutThinking_cons {first : Char} {text : Text}
    (unopened : dropPrefixAnyCase? thinkOpener (first :: text) = none) :
    withoutThinking (first :: text) = first :: withoutThinking text := by
  rw [withoutThinking]
  split
  · next after here =>
    rw [dropThinking?, unopened] at here
    cases here
  · rfl

/-- A text without an opening mark stays as it is when nothing behind it completes one. -/
theorem withoutThinking_append {text rest : Text} (absent : ¬ Occurs thinkOpener text)
    (breaks : Breaks thinkOpener rest) :
    withoutThinking (text ++ rest) = text ++ withoutThinking rest := by
  induction text with
  | nil => rfl
  | cons first text ih =>
    rw [List.cons_append, List.cons_append, withoutThinking_cons, ih (not_occurs_tail absent)]
    exact dropPrefixAnyCase?_append_eq_none (List.cons_ne_nil first text) absent breaks

theorem dropPrefixAnyCase?_cons_eq_none {wanted first : Char} {mark text : Text}
    (other : sameLetter wanted first = false) :
    dropPrefixAnyCase? (wanted :: mark) (first :: text) = none := by
  rw [dropPrefixAnyCase?, if_neg (by simp [other])]

/-- A text without the sign that begins an opening mark stays as it is, whatever follows. -/
theorem withoutThinking_append_of_notMem {text : Text} (unopened : '<' ∉ text) (rest : Text) :
    withoutThinking (text ++ rest) = text ++ withoutThinking rest := by
  induction text with
  | nil => rfl
  | cons first text ih =>
    rw [List.mem_cons, not_or] at unopened
    obtain ⟨here, later⟩ := unopened
    have other : sameLetter '<' first = false :=
      Bool.eq_false_iff.mpr fun same => here (eq_of_sameLetter (by decide) same).symm
    rw [List.cons_append, List.cons_append,
      withoutThinking_cons (dropPrefixAnyCase?_cons_eq_none other), ih later]

/-- Blanks and closed blocks of reasoning, in any number and order. -/
inductive Margin : Text → Prop
  | nil : Margin []
  | blank {c : Char} {rest : Text} : isBlank c = true → Margin rest → Margin (c :: rest)
  | thinking {opener inside closer rest : Text} : Spells thinkOpener opener →
      ¬ Occurs thinkCloser inside → Spells thinkCloser closer → Margin rest →
      Margin (opener ++ inside ++ closer ++ rest)

theorem Breaks.append {mark first second : Text} (breaks : Breaks mark first)
    (later : Breaks mark second) : Breaks mark (first ++ second) := by
  cases first with
  | nil => exact later
  | cons c first => exact breaks

/-- No blank goes on with an opening mark. -/
theorem breaks_of_isBlank {c : Char} {rest : Text} (blank : isBlank c = true) :
    Breaks thinkOpener (c :: rest) := by
  intro c here letter member
  cases here
  have solid : ∀ letter ∈ thinkOpener.tail, isBlank letter = false := by
    simp [thinkOpener, isBlank]
  exact sameLetter_eq_false_of_isBlank blank (solid letter member)

/-- A mark with a single sign `<` in front does not go on with another such mark. -/
theorem Spells.breaks {mark found rest : Text} (spelled : Spells ('<' :: mark) found)
    (other : ∀ letter ∈ mark, sameLetter letter '<' = false) :
    Breaks ('<' :: mark) (found ++ rest) := by
  obtain ⟨first, later, same, -, rfl⟩ := List.forall₂_cons_left_iff.mp spelled
  obtain rfl := eq_of_sameLetter (by decide) same
  rintro c here letter member
  cases here
  exact other letter member

/-- A closed block of reasoning is gone, whatever follows. -/
theorem dropThinking?_block {opener inside closer : Text} (opened : Spells thinkOpener opener)
    (unclosed : ¬ Occurs thinkCloser inside) (closed : Spells thinkCloser closer) (rest : Text) :
    dropThinking? (opener ++ inside ++ closer ++ rest) = some rest := by
  rw [dropThinking?, List.append_assoc, List.append_assoc, dropPrefixAnyCase?_append opened,
    Option.bind_some, afterFirstAnyCase?_append unclosed (closed.breaks (by simp [sameLetter]))]
  exact afterFirstAnyCase?_of_dropPrefixAnyCase? (dropPrefixAnyCase?_append closed rest)

namespace Margin

variable {margin : Text}

theorem breaks (ends : Margin margin) : Breaks thinkOpener margin := by
  cases ends with
  | nil => exact nofun
  | blank spaced rest => exact breaks_of_isBlank spaced
  | thinking opened _ _ _ =>
    rw [List.append_assoc, List.append_assoc]
    exact opened.breaks (by simp [sameLetter])

/-- Only the blanks of a margin are left in front of what follows. -/
theorem withoutThinking_append (ends : Margin margin) (rest : Text) :
    ∃ blanks : Text, blanks.isBlank = true ∧
      withoutThinking (margin ++ rest) = blanks ++ withoutThinking rest := by
  induction ends with
  | nil => exact ⟨[], rfl, rfl⟩
  | @blank c margin spaced ends ih =>
    obtain ⟨blanks, blank, left⟩ := ih
    refine ⟨c :: blanks, ?_, ?_⟩
    · rw [Text.isBlank, List.all_cons, spaced]
      exact blank
    · rw [List.cons_append, withoutThinking_cons, left, List.cons_append]
      exact dropPrefixAnyCase?_cons_eq_none (sameLetter_eq_false_of_isBlank spaced (by decide))
  | thinking opened unclosed closed ends ih =>
    rw [List.append_assoc, withoutThinking_of_dropThinking?
      (dropThinking?_block opened unclosed closed _)]
    exact ih

end Margin

end FormulaRepair.Cleaning
