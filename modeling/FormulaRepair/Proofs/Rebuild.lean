import FormulaRepair.Compose
import FormulaRepair.Proofs.Slices
import Mathlib.Data.List.Nodup

/-! # Rebuilding a text from left to right

Replacing spans from the last to the first gives the text that is read off from left to right: what
lies between the spans is copied, and each span gives way to its replacement. For this the spans must
be nonempty, lie in the text and not overlap; the order in which they are listed does not matter.
-/

namespace FormulaRepair.Replacement

/-- The content from a place on, with the replacements in place of their spans. -/
def rebuild (content : Text) (place : Int) : List Replacement → Text
  | [] => content.startingAt place
  | replacement :: rest =>
      content.slice place replacement.start ++ replacement.text ++
        rebuild content replacement.stop rest

@[simp] theorem rebuild_nil (content : Text) : rebuild content 0 [] = content := by
  simp [rebuild, Text.startingAt, Text.bound]

/-- The span of a replacement is not empty and lies in the content. -/
def Inside (content : Text) (replacement : Replacement) : Prop :=
  0 ≤ replacement.start ∧ replacement.start < replacement.stop ∧ replacement.stop ≤ content.length

/-- One replacement leads on to another that starts no earlier than it stops. -/
def Before (first second : Replacement) : Prop := first.stop ≤ second.start

/-- A part of the content in front of all replacements is copied. -/
theorem rebuild_append (before part after : Text) {replacements : List Replacement}
    (ahead : ∀ replacement ∈ replacements, ((before ++ part).length : Int) ≤ replacement.start) :
    rebuild (before ++ (part ++ after)) before.length replacements =
      part ++ rebuild (before ++ (part ++ after)) (before ++ part).length replacements := by
  cases replacements with
  | nil =>
    have here : Text.startingAt (before ++ (part ++ after)) before.length = part ++ after :=
      Text.startingAt_append rfl
    have behind : Text.startingAt (before ++ (part ++ after)) (before ++ part).length = after := by
      rw [← List.append_assoc]
      exact Text.startingAt_append rfl
    rw [rebuild, rebuild, here, behind]
  | cons replacement rest =>
    have start := ahead replacement (List.mem_cons_self ..)
    have ordered : (before.length : Int) ≤ (before ++ part).length := by
      rw [List.length_append]
      omega
    rw [rebuild, rebuild, ← Text.slice_append_slice (Text.bound_mono (by omega) ordered)
      (Text.bound_mono (by omega) start), Text.slice_append]
    simp only [List.append_assoc]

/-- What a replacement does to a content of which only the part behind its span has changed. -/
private theorem apply_upTo_append {content changed : Text} {replacement : Replacement}
    (inside : replacement.Inside content) :
    replacement.apply (content.upTo replacement.stop ++ changed) =
      content.upTo replacement.start ++ replacement.text ++ changed := by
  obtain ⟨nonneg, nonempty, bounded⟩ := inside
  have front := Text.length_upTo content nonneg (by omega)
  have whole := Text.length_upTo content (Int.le_trans nonneg (Int.le_of_lt nonempty)) bounded
  have before : Text.upTo (content.upTo replacement.stop ++ changed) replacement.start =
      content.upTo replacement.start := by
    rw [← Text.upTo_append_slice (Text.bound_mono nonneg (Int.le_of_lt nonempty)),
      List.append_assoc]
    exact Text.upTo_append front
  have after : Text.startingAt (content.upTo replacement.stop ++ changed) replacement.stop =
      changed := Text.startingAt_append whole
  rw [apply, before, after]

private theorem foldr_apply {content : Text} {replacements : List Replacement} {place : Int}
    (nonneg : 0 ≤ place) (inside : ∀ replacement ∈ replacements, replacement.Inside content)
    (ahead : ∀ replacement ∈ replacements, place ≤ replacement.start)
    (ordered : replacements.Pairwise Before) :
    replacements.foldr apply content =
      content.upTo place ++ rebuild content place replacements := by
  induction replacements generalizing place with
  | nil => exact (Text.upTo_append_startingAt content place).symm
  | cons replacement rest ih =>
    obtain ⟨later, ordered⟩ := List.pairwise_cons.mp ordered
    have here := inside replacement (List.mem_cons_self ..)
    have start := ahead replacement (List.mem_cons_self ..)
    have nonnegStop : 0 ≤ replacement.stop := Int.le_trans here.1 (Int.le_of_lt here.2.1)
    have insideRest : ∀ other ∈ rest, other.Inside content :=
      fun other member => inside other (List.mem_cons_of_mem _ member)
    have tail := ih nonnegStop insideRest later ordered
    rw [List.foldr_cons, tail, apply_upTo_append here, rebuild,
      ← Text.upTo_append_slice (Text.bound_mono nonneg start)]
    simp only [List.append_assoc]

/-- Whatever the order in which replacements are listed, they are made from the last to the first. -/
theorem lastFirst_eq_reverse {given ordered : List Replacement} (listed : given.Perm ordered)
    (strict : ordered.Pairwise fun first second => first.start < second.start) :
    lastFirst given = ordered.reverse := by
  have sorted : (lastFirst given).Pairwise fun first second => second.start ≤ first.start := by
    refine (List.pairwise_mergeSort ?_ ?_ given).imp of_decide_eq_true
    · intro first second third
      simp only [decide_eq_true_eq]
      omega
    · intro first second
      simp only [Bool.or_eq_true, decide_eq_true_eq]
      omega
  have perm : (lastFirst given).Perm ordered.reverse :=
    ((List.mergeSort_perm given _).trans listed).trans (List.reverse_perm ordered).symm
  have distinct : (ordered.map Replacement.start).Nodup :=
    List.pairwise_map.mpr (strict.imp Int.ne_of_lt)
  refine perm.eq_of_pairwise ?_ sorted (List.pairwise_reverse.mpr (strict.imp Int.le_of_lt))
  intro first second firstMember secondMember le ge
  refine List.inj_on_of_nodup_map distinct ?_ (List.mem_reverse.mp secondMember) (by omega)
  exact List.mem_reverse.mp (perm.mem_iff.mp firstMember)

/-- Making all replacements rebuilds the content from left to right. -/
theorem applyAll_eq_rebuild {content : Text} {given ordered : List Replacement}
    (listed : given.Perm ordered) (inside : ∀ replacement ∈ ordered, replacement.Inside content)
    (apart : ordered.Pairwise Before) : applyAll content given = rebuild content 0 ordered := by
  have strict : ordered.Pairwise fun first second => first.start < second.start := by
    refine apart.imp_of_mem fun first _ before => ?_
    have nonempty := (inside _ first).2.1
    unfold Before at before
    omega
  rw [applyAll, lastFirst_eq_reverse listed strict, List.foldl_reverse]
  have whole := foldr_apply (Int.le_refl 0) inside
    (fun replacement member => (inside replacement member).1) apart
  have front : content.upTo 0 = [] := by simp [Text.upTo, Text.bound]
  rw [front, List.nil_append] at whole
  exact whole

end FormulaRepair.Replacement
