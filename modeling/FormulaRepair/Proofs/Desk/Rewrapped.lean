import FormulaRepair.Proofs.Compose
import FormulaRepair.Proofs.Registry.Decisions
import FormulaRepair.Proofs.Scan.Search

/-! # Formulas that are proposed as they stand

A text between delimiters gets them back when it has been unwrapped, and a text that is not between
them is left as it is. So a formula that is unwrapped and proposed again is put back as it stood,
and a document comes out of any number of such repairs as it was, whichever of them are accepted.
-/

namespace FormulaRepair

namespace Delimiter

variable {delimiter : Delimiter} {text : Text}

theorem unwrap_wrap (delimiter : Delimiter) (inner : Text) :
    delimiter.unwrap (delimiter.wrap inner) = inner := by
  have opened : Text.dropPrefix? delimiter.opener (delimiter.wrap inner) =
      some (inner ++ delimiter.closer) :=
    Text.dropPrefix?_eq_some_iff.mpr (List.append_assoc ..)
  have closed : Text.dropSuffix? delimiter.closer (inner ++ delimiter.closer) = some inner :=
    Text.dropSuffix?_eq_some_iff.mpr rfl
  simp only [unwrap, opened, closed, Option.getD_some]

/-- A text is unwrapped only when the two marks stand in it side by side or apart, so that they have
no character in common. -/
theorem unwrap_of_ne_wrap (unwrapped : ∀ inner, text ≠ delimiter.wrap inner) :
    delimiter.unwrap text = text := by
  unfold unwrap
  split
  · next rest opened =>
    have opens := Text.dropPrefix?_eq_some_iff.mp opened
    cases closed : Text.dropSuffix? delimiter.closer rest with
    | none => rfl
    | some inner =>
      have closes := Text.dropSuffix?_eq_some_iff.mp closed
      refine absurd ?_ (unwrapped inner)
      rw [opens, closes, wrap, List.append_assoc]
  · rfl

end Delimiter

section Compose

variable {content : Text}

/-- A replacement by what stands at its span. -/
theorem Replacement.apply_of_same {replacement : Replacement}
    (ordered : Text.bound content.length replacement.start ≤
      Text.bound content.length replacement.stop)
    (same : replacement.text = content.slice replacement.start replacement.stop) :
    replacement.apply content = content := by
  rw [apply, same, Text.upTo_append_slice ordered, Text.upTo_append_startingAt]

/-- Each replacement finds the content as it was, and leaves it so. -/
theorem Replacement.applyAll_of_same {replacements : List Replacement}
    (same : ∀ replacement ∈ replacements, replacement.apply content = content) :
    applyAll content replacements = content := by
  have step : ∀ replacement ∈ lastFirst replacements, replacement.apply content = content :=
    fun replacement member => same replacement ((List.mergeSort_perm ..).mem_iff.mp member)
  rw [applyAll]
  generalize lastFirst replacements = ordered at step
  induction ordered with
  | nil => rfl
  | cons replacement ordered ih =>
    obtain ⟨here, later⟩ := List.forall_mem_cons.mp step
    rw [List.foldl_cons, here]
    exact ih later

/-- Accepted fixes that put back what the formulas are leave the text as it is. -/
theorem compose_of_same {formulas : List Formula} (found : FoundIn content formulas)
    {fixOf : Text → Option Fix}
    (same : ∀ formula ∈ formulas, ∀ fix, fixOf formula.id = some fix →
      fix.fixedWithDelimiters = formula.rawWithDelimiters) :
    compose content formulas fixOf = content := by
  refine Replacement.applyAll_of_same fun replacement member => ?_
  obtain ⟨formula, listed, called⟩ := List.mem_filterMap.mp member
  obtain ⟨fix, fixed, -, rfl⟩ := Replacement.ofFormula?_eq_some_iff.mp called
  obtain ⟨nonneg, nonempty, -⟩ := found.span_bounds listed
  obtain ⟨before, inner, after, whole, -, start, stop⟩ := found.exists_split listed
  refine Replacement.apply_of_same (Text.bound_mono nonneg (Int.le_of_lt nonempty)) ?_
  dsimp only
  rw [same formula listed fix fixed, start, stop, whole, Text.slice_append]

end Compose

namespace Registry

/-- A formula is proposed as it stands in its text, without its delimiters. -/
def Act.ownText (formula : Formula) (provenance : Text) : Act :=
  .propose formula.id (formula.delimiter.unwrap formula.rawWithDelimiters) provenance

/-- Nothing but their own text is proposed for formulas; decisions of any kind are taken. -/
def Act.Retains (formulas : List Formula) (act : Act) : Prop :=
  (∃ formula ∈ formulas, ∃ provenance, act = ownText formula provenance) ∨
    ∃ decision, act = .decide decision

/-- The acts by which formulas are proposed as they stand and accepted, one after the other. -/
def acceptOwnTexts (provenance : Formula → Text) (chosen : List Formula) : List Act :=
  chosen.flatMap fun formula =>
    [.ownText formula (provenance formula), .decide (.accept formula.id)]

private theorem retains_acceptOwnTexts (provenance : Formula → Text)
    {chosen formulas : List Formula} (listed : chosen ⊆ formulas) :
    ∀ act ∈ acceptOwnTexts provenance chosen, act.Retains formulas := by
  intro act member
  obtain ⟨formula, here, made⟩ := List.mem_flatMap.mp member
  simp only [List.mem_cons, List.not_mem_nil, or_false] at made
  rcases made with rfl | rfl
  · exact .inl ⟨formula, listed here, _, rfl⟩
  · exact .inr ⟨_, rfl⟩

/-- A fix that has just been proposed and accepted has that status; those of other formulas keep
theirs. -/
theorem status_accept_store (registry : Registry) (fix : Fix) (pending : fix.status = .pending)
    (id : Text) :
    (((registry.store fix).accept fix.formulaId).fix? id).map Fix.status =
      if fix.formulaId = id then some .accepted else (registry.fix? id).map Fix.status := by
  rw [accept, fix?_decide, fix?_store]
  split
  · simp [pending]
  · next other =>
    rw [Option.map_map]
    refine Option.map_congr fun kept found => ?_
    have named : kept.formulaId ≠ fix.formulaId := fun same =>
      other (same.symm.trans (fix?_eq_some found).2)
    simp [named]

/-- The fix puts back what the formula is. -/
structure PutsBack (formula : Formula) (fix : Fix) : Prop where
  formulaId : fix.formulaId = formula.id
  fixedWithDelimiters : fix.fixedWithDelimiters = formula.rawWithDelimiters

end Registry

namespace Desk

variable {Outside : Type} {renderer : Renderer (Desk Outside)} {formulas : List Formula}
  {text : Text}

/-- With a renderer that leaves the registry alone, a proposal for one of its formulas is stored. -/
theorem registry_propose (leaves : ∀ sample, Within (Kept Registry) (renderer sample))
    {desk : Desk Outside} {id : Text} {formula : Formula}
    (known : desk.registry.formula? id = some formula) (replacement provenance : Text) :
    ∃ verdict, (renderer.propose id replacement provenance desk).2.registry =
      desk.registry.store (Fix.propose formula id replacement verdict provenance) := by
  have same : (renderer.validate ⟨replacement, formula.delimiter.isDisplay⟩ desk).2.registry =
      desk.registry := within_validate (fun _ _ => rfl) leaves _ desk
  rw [Renderer.propose_of_known renderer replacement provenance known]
  generalize renderer.validate ⟨replacement, formula.delimiter.isDisplay⟩ desk = answer at same ⊢
  refine ⟨answer.1, ?_⟩
  change (if answer.2.registry.edition = desk.registry.edition then _ else _) = _
  rw [if_pos (congrArg Registry.edition same)]
  exact congrArg (Registry.store · _) same

/-- The registry is one for formulas found in the text, and its fixes put these back. -/
structure Retaining (text : Text) (formulas : List Formula) (desk : Desk Outside) : Prop where
  found : FoundIn text formulas
  formulas : desk.registry.formulas = formulas
  fixes : desk.registry.Relates Registry.PutsBack

theorem Retaining.formula? {desk : Desk Outside} (retaining : Retaining text formulas desk)
    {formula : Formula} (member : formula ∈ formulas) :
    desk.registry.formula? formula.id = some formula := by
  refine Registry.formula?_of_mem ?_ (retaining.formulas ▸ member)
  rw [retaining.formulas]
  exact retaining.found.nodup_map_id

theorem Retaining.ownText (leaves : ∀ sample, Within (Kept Registry) (renderer sample))
    {desk : Desk Outside} (retaining : Retaining text formulas desk) {formula : Formula}
    (member : formula ∈ formulas) (provenance : Text) :
    Retaining text formulas
      (renderer.propose formula.id (formula.delimiter.unwrap formula.rawWithDelimiters) provenance
        desk).2 := by
  obtain ⟨verdict, stored⟩ := registry_propose leaves (retaining.formula? member)
    (formula.delimiter.unwrap formula.rawWithDelimiters) provenance
  obtain ⟨-, inner, -, -, wrapped, -, -⟩ := retaining.found.exists_split member
  refine ⟨retaining.found, ?_, ?_⟩
  · rw [stored, Registry.store_formulas, retaining.formulas]
  · rw [stored]
    refine retaining.fixes.store (retaining.formulas ▸ member) ⟨rfl, ?_⟩
    rw [Fix.propose, wrapped, Delimiter.unwrap_wrap]

theorem Retaining.decide {desk : Desk Outside} (retaining : Retaining text formulas desk)
    (decision : Registry.Decision) :
    Retaining text formulas { desk with registry := decision.apply desk.registry } := by
  refine ⟨retaining.found, ?_, ?_⟩
  · exact (decision.apply_formulas _).trans retaining.formulas
  · exact retaining.fixes.apply (fun _ _ _ back => ⟨back.1, back.2⟩) decision

/-- By induction on the acts, each of which keeps to fixes that put the formulas back. -/
theorem Retaining.performAll (leaves : ∀ sample, Within (Kept Registry) (renderer sample))
    {desk : Desk Outside} (retaining : Retaining text formulas desk) {acts : List Registry.Act}
    (retains : ∀ act ∈ acts, act.Retains formulas) :
    Retaining text formulas (Registry.performAll renderer acts desk).2 := by
  induction acts generalizing desk with
  | nil => exact retaining
  | cons act acts ih =>
    obtain ⟨here, later⟩ := List.forall_mem_cons.mp retains
    obtain ⟨formula, member, provenance, rfl⟩ | ⟨decision, rfl⟩ := here
    · exact ih (retaining.ownText leaves member provenance) later
    · exact ih (retaining.decide decision) later

private theorem Retaining.compose_eq {desk : Desk Outside}
    (retaining : Retaining text formulas desk) :
    compose text formulas desk.registry.fix? = text := by
  refine compose_of_same retaining.found fun formula member fix kept => ?_
  have back : Registry.PutsBack formula fix :=
    retaining.found.related retaining.formulas retaining.fixes (fun _ _ back => back.formulaId)
      member kept
  exact back.fixedWithDelimiters

theorem Retaining.openRegistry (found : FoundIn text formulas) (desk : Desk Outside) :
    Retaining text formulas (desk.openRegistry formulas) := by
  refine ⟨found, rfl, ?_⟩
  intro fix member
  cases member

/-- Formulas that are proposed as they stand and accepted have accepted fixes, and the other ones
have what they had. -/
theorem Retaining.status_acceptOwnTexts
    (leaves : ∀ sample, Within (Kept Registry) (renderer sample)) {desk : Desk Outside}
    (retaining : Retaining text formulas desk) (provenance : Formula → Text)
    {chosen : List Formula} (listed : chosen ⊆ formulas) (id : Text) :
    ((Registry.performAll renderer (Registry.acceptOwnTexts provenance chosen)
        desk).2.registry.fix? id).map Fix.status =
      if id ∈ chosen.map Formula.id then some .accepted
      else (desk.registry.fix? id).map Fix.status := by
  induction chosen generalizing desk with
  | nil => rfl
  | cons formula chosen ih =>
    obtain ⟨member, listed⟩ := List.cons_subset.mp listed
    obtain ⟨verdict, stored⟩ := registry_propose leaves (retaining.formula? member)
      (formula.delimiter.unwrap formula.rawWithDelimiters) (provenance formula)
    have accepted := desk.registry.status_accept_store
      (Fix.propose formula formula.id (formula.delimiter.unwrap formula.rawWithDelimiters) verdict
        (provenance formula)) rfl id
    rw [← stored] at accepted
    refine (ih ((retaining.ownText leaves member _).decide (.accept formula.id)) listed).trans ?_
    simp only [List.map_cons, List.mem_cons]
    by_cases later : id ∈ chosen.map Formula.id
    · simp only [later, or_true, ↓reduceIte]
    · simp only [later, or_false, ↓reduceIte, @eq_comm _ id]
      exact accepted

/-- Unwrapping undoes wrapping, and wrapping undoes unwrapping of what is an opening mark, some
text and a closing mark; anything else is left as it is by unwrapping. So formulas found in a text,
judged or not, may be proposed as they stand, any of them and any number of times, and accepted or
not: with the accepted fixes written into it, the text is as it was. When some of them are proposed
and accepted one after the other, these have accepted fixes and the other ones have none. -/
theorem rewrapped_unchanged (leaves : ∀ sample, Within (Kept Registry) (renderer sample)) :
    (∀ (delimiter : Delimiter) (inner : Text),
      delimiter.unwrap (delimiter.wrap inner) = inner) ∧
    (∀ (delimiter : Delimiter) (text : Text),
      (∀ inner, text = delimiter.opener ++ inner ++ delimiter.closer →
        delimiter.wrap (delimiter.unwrap text) = text) ∧
      ((∀ inner, text ≠ delimiter.opener ++ inner ++ delimiter.closer) →
        delimiter.unwrap text = text)) ∧
    ∀ (text : Text) (formulas : List Formula), FoundIn text formulas → ∀ desk : Desk Outside,
      (∀ acts : List Registry.Act, (∀ act ∈ acts, act.Retains formulas) →
        compose text formulas
          (Registry.performAll renderer acts (desk.openRegistry formulas)).2.registry.fix? =
            text) ∧
      ∀ chosen ⊆ formulas, ∀ provenance : Formula → Text,
        let registry := (Registry.performAll renderer
          (Registry.acceptOwnTexts provenance chosen) (desk.openRegistry formulas)).2.registry
        (∀ formula ∈ formulas, (registry.fix? formula.id).map Fix.status =
          if formula ∈ chosen then some .accepted else none) ∧
        compose text formulas registry.fix? = text := by
  refine ⟨Delimiter.unwrap_wrap, fun delimiter text => ⟨?_, Delimiter.unwrap_of_ne_wrap⟩,
    fun text formulas found desk => ?_⟩
  · rintro inner rfl
    exact congrArg delimiter.wrap (delimiter.unwrap_wrap inner)
  · have opened := Retaining.openRegistry found desk
    refine ⟨fun acts retains => (opened.performAll leaves retains).compose_eq,
      fun chosen listed provenance => ⟨fun formula member => ?_, ?_⟩⟩
    · have chosen_iff : formula.id ∈ chosen.map Formula.id ↔ formula ∈ chosen := by
        refine ⟨fun named => ?_, List.mem_map_of_mem⟩
        obtain ⟨other, here, same⟩ := List.mem_map.mp named
        rwa [← found.eq_of_id_eq (listed here) member same]
      rw [opened.status_acceptOwnTexts leaves provenance listed]
      simp only [chosen_iff]
      rfl
    · have retains := Registry.retains_acceptOwnTexts provenance listed
      exact (opened.performAll leaves retains).compose_eq

/-- Marks inside of marks, a chosen formula that is refused by the renderer, and one that is left
out. -/
theorem rewrapped_unchanged_refused :
    let text := "\\(\\(\\) $a\\$$ $$$b$$".toList
    let renderer : Renderer (Desk Unit) := fun _ => pure (.error (.rejected []))
    let desk : Desk Unit := { cache := default, pool := default, pooled := false, outside := () }
    let formulas := Scan.formulas text
    let chosen := formulas.eraseIdx 1
    let registry := (Registry.performAll renderer
      (Registry.acceptOwnTexts (fun _ => Fix.manual) chosen)
      (desk.openRegistry formulas)).2.registry
    chosen.map Formula.rawWithDelimiters = ["\\(\\(\\)".toList, "$$$b$$".toList] ∧
      registry.fixes.map Fix.fixedRaw = ["\\(".toList, "$b".toList] ∧
      (∀ formula ∈ formulas, (registry.fix? formula.id).map Fix.status =
        if formula ∈ chosen then some .accepted else none) ∧
      compose text formulas registry.fix? = text := by
  intro text renderer desk formulas chosen registry
  have leaves (sample : Sample) : Within (Kept Registry) (renderer sample) := fun _ => rfl
  obtain ⟨-, -, unchanged⟩ := rewrapped_unchanged leaves
  have rewrapped := (unchanged text formulas (Scan.map_asFound_formulas text) desk).2 chosen
    (List.eraseIdx_subset ..) fun _ => Fix.manual
  exact ⟨by decide +kernel, by decide +kernel, rewrapped⟩

end Desk

end FormulaRepair
