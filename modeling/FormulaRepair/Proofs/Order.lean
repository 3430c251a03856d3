import FormulaRepair.Data.Order

/-! # Comparing and sorting untyped data

Records are compared field by field and lists item by item, so the order in which a record has its
fields does not matter, and a common beginning of two lists does not decide which comes first. A
list that cannot be sorted is left without an answer; one that can keeps its values.
-/

namespace FormulaRepair.Data

section Fields

variable {fields others firsts seconds : List (Text × Data)} {name : Text} {value : Data}

/-- In a record with one field of each name, every field is found by its name. -/
theorem field?_eq_some_iff (distinct : (fields.map Prod.fst).Nodup) :
    (record fields).field? name = some value ↔ (name, value) ∈ fields := by
  induction fields with
  | nil => simp [field?]
  | cons field fields ih =>
    obtain ⟨here, there⟩ := field
    obtain ⟨fresh, distinct⟩ := List.nodup_cons.mp distinct
    by_cases same : here = name
    · subst same
      have absent : (here, value) ∉ fields := fun member =>
        fresh (List.mem_map.mpr ⟨_, member, rfl⟩)
      simp [field?, absent, eq_comm]
    · have later : (record ((here, there) :: fields)).field? name = (record fields).field? name := by
        simp [field?, same]
      rw [later, ih distinct, List.mem_cons, or_iff_right]
      rintro ⟨⟩
      exact same rfl

private theorem field?_congr_of_perm (perm : fields.Perm others)
    (distinct : (fields.map Prod.fst).Nodup) (name : Text) :
    (record fields).field? name = (record others).field? name := by
  have distinct' := (perm.map Prod.fst).nodup_iff.mp distinct
  ext value
  rw [field?_eq_some_iff distinct, field?_eq_some_iff distinct', perm.mem_iff]

private theorem haveFieldsOf_iff : haveFieldsOf firsts seconds = true ↔
    ∀ field ∈ firsts, ∃ other, (record seconds).field? field.1 = some other ∧
      isSame field.2 other = true := by
  induction firsts with
  | nil => simp [haveFieldsOf]
  | cons field firsts ih =>
    rw [haveFieldsOf, Bool.and_eq_true, ih, List.forall_mem_cons]
    cases (record seconds).field? field.1 <;> simp

/-- Records are the same when they have as many fields and each field of the one is in the other. -/
theorem isSame_record_iff : isSame (record firsts) (record seconds) = true ↔
    firsts.length = seconds.length ∧
      ∀ field ∈ firsts, ∃ other, (record seconds).field? field.1 = some other ∧
        isSame field.2 other = true := by
  rw [isSame, Bool.and_eq_true, beq_iff_eq, haveFieldsOf_iff]

/-- The order of the fields does not matter, neither of the one record nor of the other. -/
theorem isSame_record_congr (perm : firsts.Perm fields) (perm' : seconds.Perm others)
    (distinct : (seconds.map Prod.fst).Nodup) :
    isSame (record firsts) (record seconds) = isSame (record fields) (record others) := by
  rw [Bool.eq_iff_iff, isSame_record_iff, isSame_record_iff, perm.length_eq, perm'.length_eq]
  simp only [field?_congr_of_perm perm' distinct, perm.mem_iff]

end Fields

section Lists

variable {items others : List Data}

/-- Lists that begin with the same items come in the order of what is left of them. -/
theorem areBefore?_append (same : areSame items others = true) (firsts seconds : List Data) :
    areBefore? (items ++ firsts) (others ++ seconds) = areBefore? firsts seconds := by
  induction items generalizing others with
  | nil =>
    cases others with
    | nil => rfl
    | cons other others => simp [areSame] at same
  | cons item items ih =>
    cases others with
    | nil => simp [areSame] at same
    | cons other others =>
      rw [areSame, Bool.and_eq_true] at same
      rw [List.cons_append, List.cons_append, areBefore?, if_pos same.1, ih same.2]

/-- The values have an order, or need none. -/
def Sortable (items : List Data) : Prop := items.length ≤ 1 ∨ areOrdered items = true

theorem sort?_eq_none_iff : sort? items = none ↔ ¬ Sortable items := by
  unfold sort? Sortable
  split
  · simp [*]
  · split <;> simp_all

/-- Sorting neither drops nor makes up any value. -/
theorem mem_of_sort? {sorted : List Data} (done : sort? items = some sorted) {item : Data} :
    item ∈ sorted ↔ item ∈ items := by
  unfold sort? at done
  split at done
  · cases done
    rfl
  · split at done
    · cases done
      exact List.mem_mergeSort
    · cases done

end Lists

end FormulaRepair.Data
