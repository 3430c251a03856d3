import FormulaRepair.Intake
import Mathlib.Logic.Basic

/-! # Reading records

A record is read by rules, one for each of its fields. A reading that obeys its rules tells the names
of all fields that break them, in their order; it succeeds when there are none, and what else the
data holds makes no difference to it. Readings put together obey the rules of their parts.
-/

namespace FormulaRepair.Intake

/-- What is asked of a field: whether what is found under its name will do, be it nothing. -/
structure Rule where
  name : Text
  fits : Option Data → Bool

/-- The field must be there and have a value. -/
def Rule.required {α : Type} (name : String) (read : Data → Option α) : Rule :=
  ⟨name.toList, fun found => (found.bind read).isSome⟩

/-- The field must have a value if it is there. -/
def Rule.optional {α : Type} (name : String) (read : Data → Option α) : Rule :=
  ⟨name.toList, fun found => found.all fun value => (read value).isSome⟩

/-- The names of the fields that break the rules. -/
def faults (rules : List Rule) (data : Data) : List Text :=
  (rules.filter fun rule => !rule.fits (data.field? rule.name)).map Rule.name

variable {α β : Type} {rules more : List Rule}

private theorem faults_append (data : Data) :
    faults (rules ++ more) data = faults rules data ++ faults more data := by
  rw [faults, List.filter_append, List.map_append, faults, faults]

/-- The reading answers with all faults, has a value when there are none, and looks at nothing but
the fields that the rules are about. -/
structure Obeys (read : Intake α) (rules : List Rule) : Prop where
  exists_eq_ok_iff : ∀ data, (∃ value, read data = .ok value) ↔ faults rules data = []
  eq_faults : ∀ data names, read data = .error names → names = faults rules data
  congr : ∀ data other, (∀ rule ∈ rules, data.field? rule.name = other.field? rule.name) →
    read data = read other

/-- The reading of a single field obeys the rule of that field. -/
private theorem obeys_single {read : Intake α} {rule : Rule}
    (answers : ∀ data, (rule.fits (data.field? rule.name) = true ∧ ∃ value, read data = .ok value) ∨
      rule.fits (data.field? rule.name) = false ∧ read data = .error [rule.name])
    (congr : ∀ data other : Data, data.field? rule.name = other.field? rule.name →
      read data = read other) : Obeys read [rule] where
  exists_eq_ok_iff data := by
    rcases answers data with ⟨fits, value, done⟩ | ⟨broken, failed⟩
    · simp [faults, fits, done]
    · simp [faults, broken, failed]
  eq_faults data names told := by
    rcases answers data with ⟨-, value, done⟩ | ⟨broken, failed⟩
    · rw [done] at told
      cases told
    · rw [failed] at told
      cases told
      simp [faults, broken]
  congr data other same := congr data other (same rule (List.mem_singleton_self rule))

/-- Where nothing is read, there are no faults. -/
theorem obeys_pure (value : α) : Obeys (pure value) [] where
  exists_eq_ok_iff _ := iff_of_true ⟨value, rfl⟩ rfl
  eq_faults _ _ told := by cases told
  congr _ _ _ := rfl

private theorem obeys_required (name : String) (read : Data → Option α) :
    Obeys (required name read) [.required name read] := by
  refine obeys_single (fun data => ?_) fun data other same => ?_
  · simp only [Rule.required, required]
    cases (data.field? name.toList).bind read with
    | some value => exact .inl ⟨rfl, value, rfl⟩
    | none => exact .inr ⟨rfl, rfl⟩
  · simp only [Rule.required] at same
    rw [required, same, required]

private theorem obeys_withDefault (name : String) (default : α) (read : Data → Option α) :
    Obeys (withDefault name default read) [.optional name read] := by
  refine obeys_single (fun data => ?_) fun data other same => ?_
  · simp only [Rule.optional, withDefault]
    cases data.field? name.toList with
    | none => exact .inl ⟨rfl, default, rfl⟩
    | some found =>
      cases fits : read found with
      | some value => exact .inl ⟨by simp [fits], value, by simp [fits]⟩
      | none => exact .inr ⟨by simp [fits], by simp [fits]⟩
  · simp only [Rule.optional] at same
    rw [withDefault, same, withDefault]

namespace Obeys

theorem seq {first : Intake (α → β)} {second : Intake α} (start : first.Obeys rules)
    (later : second.Obeys more) : (first <*> second).Obeys (rules ++ more) where
  exists_eq_ok_iff data := by
    rw [faults_append, List.append_eq_nil_iff, ← start.exists_eq_ok_iff, ← later.exists_eq_ok_iff]
    change (∃ value, Intake.seq first second data = .ok value) ↔ _
    rw [Intake.seq]
    cases first data <;> cases second data <;> simp
  eq_faults data names told := by
    have none {γ : Type} {read : Intake γ} {rules : List Rule} (obeys : read.Obeys rules)
        {value : γ} (done : read data = .ok value) : faults rules data = [] :=
      (obeys.exists_eq_ok_iff data).mp ⟨value, done⟩
    change Intake.seq first second data = .error names at told
    rw [Intake.seq] at told
    rw [faults_append]
    split at told
    · cases told
    · next failed done =>
      cases told
      rw [← start.eq_faults _ _ failed, none later done, List.append_nil]
    · next done failed =>
      cases told
      rw [← later.eq_faults _ _ failed, none start done, List.nil_append]
    · next failed failedToo =>
      cases told
      rw [← start.eq_faults _ _ failed, ← later.eq_faults _ _ failedToo]
  congr data other same := by
    rw [List.forall_mem_append] at same
    change Intake.seq first second data = Intake.seq first second other
    rw [Intake.seq, start.congr data other same.1, later.congr data other same.2, Intake.seq]

theorem map (make : α → β) {read : Intake α} (obeys : read.Obeys rules) :
    (make <$> read).Obeys rules := (obeys_pure make).seq obeys

end Obeys

/-- The fields of a formula. -/
def formulaRules : List Rule :=
  [.required "id" Data.text?, .required "raw" Data.text?,
    .required "raw_with_delimiters" Data.text?,
    .required "delimiter_type" fun data => data.text?.bind Delimiter.ofName?,
    .required "start_offset" whole?, .required "end_offset" whole?, .required "line_number" whole?,
    .optional "is_valid" truth?, .optional "error_message" optionalText?]

/-- The fields of a fix. -/
def fixRules : List Rule :=
  [.required "formula_id" Data.text?, .required "original_raw" Data.text?,
    .required "fixed_raw" Data.text?, .required "fixed_with_delimiters" Data.text?,
    .required "fixed_is_valid" truth?, .optional "fixed_error_message" optionalText?,
    .optional "status" fun data => data.text?.bind FixStatus.ofName?,
    .optional "provenance" Data.text?]

/-- The fields of a verdict. -/
def verdictRules : List Rule :=
  [.required "success" truth?, .optional "error_message" optionalText?,
    .optional "html" optionalText?]

/-- The fields of a request. -/
def requestRules : List Rule :=
  [.required "original_latex" Data.text?, .required "error_message" Data.text?,
    .optional "context" Data.text?, .required "delimiter_type" Data.text?]

/-- The fields of a reply. -/
def replyRules : List Rule := [.required "fixed_latex" Data.text?, .required "model" Data.text?]

/-- Every record is read by the rules for its fields: all faults are told in the order of the fields,
without any the record is there, and nothing else in the data matters. -/
theorem records_obey : formula.Obeys formulaRules ∧ fix.Obeys fixRules ∧
    verdict.Obeys verdictRules ∧ request.Obeys requestRules ∧ reply.Obeys replyRules := by
  -- A record is put together from its fields in the way in which its rules are listed.
  refine ⟨?_, ?_, ?_, ?_, ?_⟩
  · exact (obeys_required _ _).map _ |>.seq (obeys_required _ _) |>.seq (obeys_required _ _)
      |>.seq (obeys_required _ _) |>.seq (obeys_required _ _) |>.seq (obeys_required _ _)
      |>.seq (obeys_required _ _) |>.seq (obeys_withDefault _ _ _) |>.seq (obeys_withDefault _ _ _)
  · exact (obeys_required _ _).map _ |>.seq (obeys_required _ _) |>.seq (obeys_required _ _)
      |>.seq (obeys_required _ _) |>.seq (obeys_required _ _) |>.seq (obeys_withDefault _ _ _)
      |>.seq (obeys_withDefault _ _ _) |>.seq (obeys_withDefault _ _ _)
  · exact (obeys_required _ _).map _ |>.seq (obeys_withDefault _ _ _)
      |>.seq (obeys_withDefault _ _ _)
  · exact (obeys_required _ _).map _ |>.seq (obeys_required _ _) |>.seq (obeys_withDefault _ _ _)
      |>.seq (obeys_required _ _)
  · exact (obeys_required _ _).map _ |>.seq (obeys_required _ _)

end FormulaRepair.Intake
