import FormulaRepair.ExportPath
import Mathlib.Data.List.DropRight

/-! # No two files share the name of their repaired copies

A path is made of a directory, a stem and an extension in one way only. The repaired copy of a file
has the mark behind the stem and keeps the other two parts, so the parts of its path give back those of
the file, whatever marks and dots the names hold already.
-/

namespace FormulaRepair

namespace Text

/-- Two splits of a text are the same when both are made behind the last character of one kind, or in
front of the text when it has none of them. -/
theorem split_unique {p : Char → Prop} {front back front' back' : Text}
    (same : front ++ back = front' ++ back')
    (ends : ∀ c ∈ front.getLast?, p c) (free : ∀ c ∈ back, ¬ p c)
    (ends' : ∀ c ∈ front'.getLast?, p c) (free' : ∀ c ∈ back', ¬ p c) :
    front = front' ∧ back = back' := by
  -- A front that is longer than the other one ends inside of the other back.
  have shorter {front back front' middle : Text} (free : ∀ c ∈ middle ++ back, ¬ p c)
      (whole : front' = front ++ middle) (ends : ∀ c ∈ front'.getLast?, p c) : middle = [] := by
    subst whole
    obtain rfl | ⟨init, last, rfl⟩ := List.eq_nil_or_concat middle
    · rfl
    · exact absurd (ends last (by simp)) (free last (by simp))
  obtain ⟨middle, whole, rest⟩ | ⟨middle, whole, rest⟩ := List.append_eq_append_iff.mp same
  · obtain rfl := shorter (rest ▸ free) whole ends'
    exact ⟨by simpa using whole.symm, by simpa using rest⟩
  · obtain rfl := shorter (rest ▸ free') whole ends
    exact ⟨by simpa using whole, by simpa using rest.symm⟩

private theorem lastIndex?_append_cons {wanted : Char} (before : Text) {after : Text}
    (absent : wanted ∉ after) :
    lastIndex? wanted (before ++ wanted :: after) = some before.length := by
  have back : (before ++ wanted :: after).reverse.idxOf? wanted = some after.length := by
    refine List.idxOf?_eq_some_iff.mpr ⟨by simp, by simp, fun place ahead found => absent ?_⟩
    rw [← List.mem_reverse, ← found]
    simp [List.getElem_append_left, ahead]
  rw [lastIndex?, back, Option.map_some, List.length_append, List.length_cons]
  congr 1
  omega

private theorem lastIndex?_eq_none {wanted : Char} {text : Text} (absent : wanted ∉ text) :
    lastIndex? wanted text = none := by
  rw [lastIndex?, List.idxOf?_eq_none_iff.mpr (by simpa using absent), Option.map_none]

private theorem exists_last_of_mem {wanted : Char} {text : Text} (member : wanted ∈ text) :
    ∃ before after, text = before ++ wanted :: after ∧ wanted ∉ after := by
  obtain ⟨after, before, reversed, absent⟩ :=
    List.eq_append_cons_of_mem (List.mem_reverse.mpr member)
  refine ⟨before.reverse, after.reverse, ?_, mt List.mem_reverse.mp absent⟩
  simpa using congrArg List.reverse reversed

end Text

namespace ExportPath

/-- Where a name has its extension: it begins at the last dot, unless that is the first character of
the name. -/
inductive Extended : Text → Text → Prop
  | dotted {stem ending : Text} : stem ≠ [] → '.' ∉ ending → Extended stem ('.' :: ending)
  | plain {stem : Text} : '.' ∉ stem.tail → Extended stem []

/-- A path taken apart. The directory includes the separator behind it. -/
@[ext]
structure Parts where
  directory : Text
  stem : Text
  extension : Text

namespace Parts

/-- The parts make up the path; the separators in it and its last dot tell where to split. -/
structure Of (path : Text) (parts : Parts) : Prop where
  path_eq : path = parts.directory ++ (parts.stem ++ parts.extension)
  directory_ends : ∀ c ∈ parts.directory.getLast?, c = '/' ∨ c = '\\'
  name_free : ∀ c ∈ parts.stem ++ parts.extension, ¬ (c = '/' ∨ c = '\\')
  extended : Extended parts.stem parts.extension

/-- The parts with the mark behind the stem. -/
def marked (parts : Parts) : Parts := { parts with stem := parts.stem ++ mark }

end Parts

/-- A name with a dot behind its first character has an extension. -/
theorem Extended.extension_ne_nil {before after extension stem : Text} (nonempty : before ≠ [])
    (same : stem ++ extension = before ++ '.' :: after) (extended : Extended stem extension) :
    extension ≠ [] := by
  rintro rfl
  cases extended with
  | plain absent =>
    rw [List.append_nil] at same
    rw [same, List.tail_append_of_ne_nil nonempty] at absent
    exact absent (by simp)

theorem Extended.unique {stem extension stem' extension' : Text}
    (same : stem ++ extension = stem' ++ extension') (extended : Extended stem extension)
    (extended' : Extended stem' extension') : stem = stem' ∧ extension = extension' := by
  cases extended with
  | plain absent =>
    cases extended' with
    | plain _ => exact ⟨by simpa using same, rfl⟩
    | dotted nonempty _ => exact absurd rfl (Extended.extension_ne_nil nonempty same (.plain absent))
  | @dotted ending nonempty absent =>
    cases extended' with
    | plain absent' =>
      exact absurd rfl (Extended.extension_ne_nil nonempty same.symm (.plain absent'))
    | @dotted ending' _ absent' =>
      have split : (stem ++ ['.']) ++ ending = (stem' ++ ['.']) ++ ending' := by simpa using same
      have dotless {ending : Text} (absent : '.' ∉ ending) : ∀ c ∈ ending, ¬ c = '.' := by
        rintro c member rfl
        exact absent member
      obtain ⟨stems, rfl⟩ := Text.split_unique (p := (· = '.')) split (by simp) (dotless absent)
        (by simp) (dotless absent')
      exact ⟨List.append_cancel_right stems, rfl⟩

/-- A mark behind the stem leaves the extension where it was. -/
theorem Extended.marked {stem extension : Text} (extended : Extended stem extension) :
    Extended (stem ++ mark) extension := by
  cases extended with
  | dotted nonempty absent => exact .dotted (List.append_ne_nil_of_left_ne_nil nonempty mark) absent
  | plain absent =>
    refine .plain ?_
    cases stem with
    | nil => decide
    | cons first stem => simpa [mark] using absent

/-- A path has only one directory, stem and extension. -/
theorem Parts.Of.unique {path : Text} {parts parts' : Parts} (here : parts.Of path)
    (here' : parts'.Of path) : parts = parts' := by
  obtain ⟨directories, names⟩ := Text.split_unique (here.path_eq.symm.trans here'.path_eq)
    here.directory_ends here.name_free here'.directory_ends here'.name_free
  obtain ⟨stems, extensions⟩ := here.extended.unique names here'.extended
  exact Parts.ext directories stems extensions

/-- The mark is put between the stem of a name and its extension. -/
theorem exists_markName (name : Text) :
    ∃ stem extension, name = stem ++ extension ∧ Extended stem extension ∧
      markName name = stem ++ mark ++ extension := by
  by_cases dot : '.' ∈ name
  · obtain ⟨before, after, rfl, absent⟩ := Text.exists_last_of_mem dot
    have last := Text.lastIndex?_append_cons before absent
    cases before with
    | nil =>
      refine ⟨'.' :: after, [], by simp, .plain absent, ?_⟩
      rw [markName, last, List.append_nil]
      rfl
    | cons first before =>
      refine ⟨first :: before, '.' :: after, rfl, .dotted (by simp) absent, ?_⟩
      simp only [markName, last, List.length_cons]
      rw [← List.length_cons (a := first), List.take_left, List.drop_left]
  · refine ⟨name, [], by simp, .plain (mt List.mem_of_mem_tail dot), ?_⟩
    simp only [markName, Text.lastIndex?_eq_none dot, List.append_nil]

theorem isSeparator_iff {c : Char} : isSeparator c = true ↔ c = '/' ∨ c = '\\' := by
  simp [isSeparator]

private theorem directoryOf_append_nameOf (path : Text) : directoryOf path ++ nameOf path = path :=
  List.rdropWhile_append_rtakeWhile

private theorem directoryOf_ends (path : Text) :
    ∀ c ∈ (directoryOf path).getLast?, c = '/' ∨ c = '\\' := by
  intro c last
  obtain ⟨nonempty, rfl⟩ := List.mem_getLast?_eq_getLast last
  have stops := List.rdropWhile_last_not (!isSeparator ·) path nonempty
  rw [Bool.not_eq_true, Bool.not_eq_false'] at stops
  exact isSeparator_iff.mp stops

private theorem nameOf_free (path : Text) : ∀ c ∈ nameOf path, ¬ (c = '/' ∨ c = '\\') := by
  intro c member
  rw [← isSeparator_iff]
  simpa using List.mem_rtakeWhile_imp member

private theorem mark_free : ∀ c ∈ mark, ¬ (c = '/' ∨ c = '\\') := by simp [mark]

/-- Every path has parts, and those of its repaired copy differ from them in the mark only. -/
theorem exists_parts (path : Text) :
    ∃ parts : Parts, parts.Of path ∧ parts.marked.Of (ofPath path) := by
  have free := nameOf_free path
  obtain ⟨stem, extension, name, extended, markedName⟩ := exists_markName (nameOf path)
  rw [name] at free
  refine ⟨⟨directoryOf path, stem, extension⟩, ⟨?_, directoryOf_ends path, free, extended⟩,
    ⟨?_, directoryOf_ends path, ?_, extended.marked⟩⟩
  · rw [← name, directoryOf_append_nameOf]
  · rw [ofPath, markedName]
    rfl
  · intro c member
    simp only [Parts.marked, List.append_assoc, List.mem_append] at member
    rcases member with inStem | inMark | inExtension
    · exact free c (List.mem_append_left _ inStem)
    · exact mark_free c inMark
    · exact free c (List.mem_append_right _ inExtension)

private theorem Parts.marked_injective : Function.Injective Parts.marked := by
  rintro ⟨directory, stem, extension⟩ ⟨directory', stem', extension'⟩ same
  simpa [Parts.marked] using same

/-- The repaired copy of a file has the mark in its name, in front of the extension or at the end; it
stands in the same directory under another name, and no other file has the same copy. -/
theorem copies_never_collide :
    (∀ path : Text, ofPath path ≠ path ∧
      ∃ parts : Parts, parts.Of path ∧ parts.marked.Of (ofPath path)) ∧
    Function.Injective ofPath := by
  refine ⟨fun path => ?_, fun first second same => ?_⟩
  · obtain ⟨parts, here, copy⟩ := exists_parts path
    refine ⟨fun unchanged => ?_, parts, here, copy⟩
    have stems := congrArg Parts.stem (copy.unique (unchanged ▸ here))
    simp [Parts.marked, mark] at stems
  · obtain ⟨parts, here, copy⟩ := exists_parts first
    obtain ⟨parts', here', copy'⟩ := exists_parts second
    obtain rfl := Parts.marked_injective (copy.unique (same ▸ copy'))
    rw [here.path_eq, here'.path_eq]

end ExportPath

end FormulaRepair
