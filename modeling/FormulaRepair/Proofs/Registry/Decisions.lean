import FormulaRepair.Desk
import FormulaRepair.Proofs.Registry

/-! # The first decision on a fix

A history lists what has happened to the fixes of one registry: replacements were proposed, with the
verdicts that validation had on them, and decisions were taken, also while a typesetter was running.
The history tells everything about the fixes. The latest proposal for a formula makes its fix, and
of the decisions behind the proposal the first one that takes the fix gives it its status; the ones
after that change nothing.
-/

namespace FormulaRepair

namespace Registry

/-- The status that a decision gives to a pending fix for the formula with an id, if it takes the
fix at all. -/
def Decision.status? (id : Text) (isValid : Bool) : Decision → Option FixStatus
  | accept chosen => if id = chosen then some .accepted else none
  | reject chosen => if id = chosen then some .rejected else none
  | acceptAll onlyValid => if onlyValid = false ∨ isValid = true then some .accepted else none
  | rejectAll => some .rejected

/-- No decision puts a fix back to pending. -/
theorem Decision.status_ne_pending (decision : Decision) {id : Text} {isValid : Bool}
    {status : FixStatus} (taken : decision.status? id isValid = some status) :
    status ≠ .pending := by
  cases decision <;> simp only [status?] at taken
  case accept | reject | acceptAll =>
    split at taken
    · cases taken; decide
    · cases taken
  case rejectAll => cases taken; decide

/-- What a decision makes of a fix. -/
def Decision.settle (decision : Decision) (fix : Fix) : Fix :=
  match decision.status? fix.formulaId fix.fixedIsValid with
  | some status => if fix.status = .pending then { fix with status := status } else fix
  | none => fix

/-- What happens to the fixes of a registry. A proposal comes with the formula that it was made for
and the verdict on the replacement. -/
inductive Event
  | proposed (formula : Formula) (replacement provenance : Text) (verdict : Verdict)
  | decided (decision : Decision)
deriving DecidableEq, Repr

/-- A proposal for the formula with an id. -/
def Event.Proposes (id : Text) : Event → Prop
  | proposed formula _ _ _ => formula.id = id
  | decided _ => False

instance (id : Text) : DecidablePred (Event.Proposes id)
  | .proposed formula _ _ _ => inferInstanceAs (Decidable (formula.id = id))
  | .decided _ => .isFalse not_false

/-- The status that an event gives to a pending fix, if it decides on the fix. -/
def Event.status? (id : Text) (isValid : Bool) : Event → Option FixStatus
  | proposed _ _ _ _ => none
  | decided decision => decision.status? id isValid

/-- What an event makes of the fix of the formula with an id. -/
def Event.change (id : Text) (kept : Option Fix) : Event → Option Fix
  | proposed formula replacement provenance verdict =>
      if formula.id = id then some (Fix.propose formula id replacement verdict provenance) else kept
  | decided decision => kept.map decision.settle

section Changes

variable {registry : Registry} {id : Text}

theorem fix?_eq_none_iff :
    registry.fix? id = none ↔ ∀ fix ∈ registry.fixes, fix.formulaId ≠ id := by
  rw [fix?, List.find?_eq_none]
  simp

/-- A fix takes the place of one with its own id. -/
private theorem formulaId_replaced (fix kept : Fix) :
    (if kept.formulaId = fix.formulaId then fix else kept).formulaId = kept.formulaId := by
  split
  · next same => exact same.symm
  · rfl

/-- A fix that is stored is the one of its formula; the other ones stay. -/
theorem fix?_store (registry : Registry) (fix : Fix) (id : Text) :
    (registry.store fix).fix? id =
      if fix.formulaId = id then some fix else registry.fix? id := by
  unfold store
  split
  · next present =>
    obtain ⟨old, found⟩ := Option.isSome_iff_exists.mp present
    simp only [fix?, List.find?_map, Function.comp_def, formulaId_replaced]
    change (registry.fix? id).map _ = _
    split
    · next same =>
      rw [← same, found, Option.map_some, if_pos (fix?_eq_some found).2]
    · next other =>
      refine (Option.map_congr fun kept here => ?_).trans (congrFun Option.map_id _)
      exact if_neg fun same => other (same.symm.trans (fix?_eq_some here).2)
  · next absent =>
    have missing : registry.fix? fix.formulaId = none := by
      simpa [contains] using absent
    rw [fix?, List.find?_append]
    change (registry.fix? id).or _ = _
    by_cases same : fix.formulaId = id
    · rw [← same, missing]
      simp
    · simp [same]

private theorem Decision.settle_eq {decision : Decision} {fix : Fix} {status : FixStatus}
    {chosen : Bool}
    (takes : decision.status? fix.formulaId fix.fixedIsValid =
      if chosen then some status else none) :
    decision.settle fix =
      if fix.status = .pending ∧ chosen then { fix with status := status } else fix := by
  rw [settle, takes]
  cases chosen <;> simp

/-- A decision settles every fix on its own. -/
theorem fix?_apply (decision : Decision) (registry : Registry) (id : Text) :
    (decision.apply registry).fix? id = (registry.fix? id).map decision.settle := by
  cases decision with
  | accept chosen | reject chosen =>
    refine (fix?_decide ..).trans (congrArg (Option.map · _) (funext fun fix => ?_))
    exact (Decision.settle_eq (by simp [Decision.status?])).symm
  | acceptAll onlyValid =>
    refine (fix?_decide ..).trans (congrArg (Option.map · _) (funext fun fix => ?_))
    exact (Decision.settle_eq (by simp [Decision.status?, takes])).symm
  | rejectAll =>
    refine (fix?_decide ..).trans (congrArg (Option.map · _) (funext fun fix => ?_))
    exact (Decision.settle_eq (by simp [Decision.status?])).symm

end Changes

section Counts

variable {registry : Registry}

/-- No two fixes have one formula. -/
theorem nodup_formulaId_store (fix : Fix)
    (distinct : (registry.fixes.map Fix.formulaId).Nodup) :
    ((registry.store fix).fixes.map Fix.formulaId).Nodup := by
  unfold store
  split
  · simpa only [List.map_map, Function.comp_def, formulaId_replaced] using distinct
  · next absent =>
    have missing : registry.fix? fix.formulaId = none := by simpa [contains] using absent
    simp only [List.map_append, List.map_cons, List.map_nil]
    refine List.nodup_append.mpr ⟨distinct, List.nodup_singleton _, ?_⟩
    rintro _ member _ same rfl
    obtain ⟨kept, here, named⟩ := List.mem_map.mp member
    exact fix?_eq_none_iff.mp missing kept here (named.trans (List.mem_singleton.mp same))

private theorem map_formulaId_decide (registry : Registry) (status : FixStatus)
    (chosen : Fix → Bool) :
    (registry.decide status chosen).fixes.map Fix.formulaId =
      registry.fixes.map Fix.formulaId := by
  rw [decide, List.map_map]
  refine List.map_congr_left fun fix _ => ?_
  dsimp only [Function.comp_apply]
  split <;> rfl

private theorem fix?_of_mem (distinct : (registry.fixes.map Fix.formulaId).Nodup) {fix : Fix}
    (member : fix ∈ registry.fixes) : registry.fix? fix.formulaId = some fix := by
  cases found : registry.fix? fix.formulaId with
  | none => exact absurd rfl (fix?_eq_none_iff.mp found fix member)
  | some other =>
    obtain ⟨listed, named⟩ := fix?_eq_some found
    rw [List.inj_on_of_nodup_map distinct listed member named]

/-- The pending fixes that are chosen are those that a decision changes. -/
theorem countPending_eq_countP (distinct : (registry.fixes.map Fix.formulaId).Nodup)
    {status : FixStatus} (settled : status ≠ .pending) (chosen : Fix → Bool) :
    registry.countPending chosen =
      registry.fixes.countP fun fix =>
        (registry.decide status chosen).fix? fix.formulaId != registry.fix? fix.formulaId := by
  refine List.countP_congr fun fix member => ?_
  rw [fix?_decide, fix?_of_mem distinct member, Option.map_some]
  by_cases taken : fix.status = .pending ∧ chosen fix = true
  · have changed : { fix with status := status } ≠ fix := fun same =>
      settled ((congrArg Fix.status same).trans taken.1)
    simp [taken, changed]
  · rw [if_neg taken]
    simpa using taken

end Counts

section Histories

variable {state : Type} [Holds Cache state] [Holds Registry state]

/-- What happens to one registry while a state changes. In between, everything but the registry may
change in any way; what happens to the registry while a proposal is validated is part of the history
as well, and stands in front of the proposal. -/
inductive History : List Event → state → state → Prop
  | idle {before after : state} :
      (Holds.view after : Registry) = Holds.view before → History [] before after
  | propose {renderer : Renderer state} {inside : List Event} {formula : Formula} {id : Text}
      (replacement provenance : Text) (whole : state) :
      (Holds.view whole : Registry).formula? id = some formula →
      History inside whole
        (renderer.validate ⟨replacement, formula.delimiter.isDisplay⟩ whole).2 →
      History
        (inside ++ [.proposed formula replacement provenance
          (renderer.validate ⟨replacement, formula.delimiter.isDisplay⟩ whole).1])
        whole (renderer.propose id replacement provenance whole).2
  | decide (decision : Decision) (whole : state) :
      History [.decided decision] whole (Holds.update decision.apply whole).2
  | trans {first second : List Event} {before between after : state} :
      History first before between → History second between after →
      History (first ++ second) before after

namespace History

variable {events : List Event} {start final : state}

/-- The registry stays one and the same, for the same formulas. -/
theorem same (history : History events start final) :
    (Holds.view final : Registry).edition = (Holds.view start : Registry).edition ∧
      (Holds.view final : Registry).formulas = (Holds.view start : Registry).formulas := by
  induction history with
  | idle kept => rw [kept]; exact ⟨rfl, rfl⟩
  | propose replacement provenance whole known _ validated =>
    rw [Renderer.propose_of_known _ replacement provenance known]
    dsimp only
    rw [if_pos validated.1, Holds.view_replace, store_edition, store_formulas]
    exact validated
  | decide decision whole =>
    rw [Holds.update, Holds.view_replace]
    exact ⟨decision.apply_edition _, decision.apply_formulas _⟩
  | trans _ _ first second => exact ⟨second.1.trans first.1, second.2.trans first.2⟩

/-- Proposals are stored when they have been validated. -/
theorem view_propose {renderer : Renderer state} {formula : Formula} {id : Text}
    (replacement provenance : Text) {whole : state}
    (known : (Holds.view whole : Registry).formula? id = some formula)
    (validated : History events whole
      (renderer.validate ⟨replacement, formula.delimiter.isDisplay⟩ whole).2) :
    (Holds.view (renderer.propose id replacement provenance whole).2 : Registry) =
      (Holds.view (renderer.validate ⟨replacement, formula.delimiter.isDisplay⟩ whole).2 :
        Registry).store
        (Fix.propose formula id replacement
          (renderer.validate ⟨replacement, formula.delimiter.isDisplay⟩ whole).1 provenance) := by
  rw [Renderer.propose_of_known _ replacement provenance known]
  dsimp only
  rw [if_pos validated.same.1, Holds.view_replace]

/-- The fix of each formula is what the events make of it, one after the other. -/
theorem fix?_eq (history : History events start final) (id : Text) :
    (Holds.view final : Registry).fix? id =
      events.foldl (Event.change id) ((Holds.view start : Registry).fix? id) := by
  induction history with
  | idle kept => rw [kept]; rfl
  | @propose renderer inside formula own replacement provenance whole known validated ih =>
    rw [view_propose replacement provenance known validated, fix?_store, ih, List.foldl_append]
    obtain ⟨-, rfl⟩ := formula?_eq_some known
    rw [List.foldl_cons, List.foldl_nil, Event.change]
    by_cases same : formula.id = id
    · subst same
      rw [if_pos rfl]
      exact if_pos rfl
    · rw [if_neg same]
      exact if_neg same
  | decide decision whole =>
    rw [Holds.update, Holds.view_replace, fix?_apply]
    rfl
  | trans _ _ first second => rw [second, first, List.foldl_append]

private theorem nodup_formulaId (history : History events start final)
    (distinct : ((Holds.view start : Registry).fixes.map Fix.formulaId).Nodup) :
    ((Holds.view final : Registry).fixes.map Fix.formulaId).Nodup := by
  induction history with
  | idle kept => rw [kept]; exact distinct
  | propose replacement provenance whole known validated ih =>
    rw [view_propose replacement provenance known validated]
    exact nodup_formulaId_store _ (ih distinct)
  | decide decision whole =>
    obtain ⟨status, chosen, same⟩ := decision.apply_eq_decide
    rw [Holds.update, Holds.view_replace, same, map_formulaId_decide]
    exact distinct
  | trans _ _ first second => exact second (first distinct)

/-- Proposals are made for the formulas of the registry only. -/
theorem mem_formulas (history : History events start final) {formula : Formula}
    {replacement provenance : Text} {verdict : Verdict}
    (made : .proposed formula replacement provenance verdict ∈ events) :
    formula ∈ (Holds.view start : Registry).formulas := by
  induction history with
  | idle kept => cases made
  | propose _ _ whole known _ ih =>
    rcases List.mem_append.mp made with inside | last
    · exact ih inside
    · cases List.mem_singleton.mp last
      exact (formula?_eq_some known).1
  | decide decision whole => cases List.mem_singleton.mp made
  | trans earlier _ first second =>
    rcases List.mem_append.mp made with made | made
    · exact first made
    · rw [← earlier.same.2]
      exact second made

end History

/-- What happens to a registry when one act is carried out after the other: the decisions, and the
proposals for the formulas of the registry. -/
def events (renderer : Renderer state) : List Act → state → List Event
  | [], _ => []
  | .propose id replacement provenance :: acts, whole =>
      let later := events renderer acts (renderer.propose id replacement provenance whole).2
      match (Holds.view whole : Registry).formula? id with
      | none => later
      | some formula =>
          .proposed formula replacement provenance
            (renderer.validate ⟨replacement, formula.delimiter.isDisplay⟩ whole).1 :: later
  | .decide decision :: acts, whole =>
      .decided decision :: events renderer acts (Holds.update decision.apply whole).2

/-- Every sequence of acts has a history, if validation leaves the registry alone. -/
theorem history_performAll {renderer : Renderer state}
    (leaves : ∀ sample, Within (Kept Registry) (renderer.validate sample)) (acts : List Act)
    (whole : state) :
    History (events renderer acts whole) whole (performAll renderer acts whole).2 := by
  induction acts generalizing whole with
  | nil => exact .idle rfl
  | cons act acts ih =>
    cases act with
    | propose id replacement provenance =>
      have later := ih (renderer.propose id replacement provenance whole).2
      change History _ whole
        (performAll renderer acts (renderer.propose id replacement provenance whole).2).2
      cases known : (Holds.view whole : Registry).formula? id with
      | none =>
        rw [events, known]
        dsimp only
        rw [Renderer.propose_of_unknown renderer replacement provenance known] at later ⊢
        exact later
      | some formula =>
        rw [events, known]
        have proposed := @History.propose _ _ _ renderer [] formula id replacement provenance whole
          known (.idle (leaves _ whole))
        exact .trans proposed later
    | decide decision => exact .trans (.decide decision whole) (ih _)

end Histories

/-- A fix that has been decided on stays as it is until the next proposal. -/
theorem foldl_change_of_settled (fix : Fix) {events : List Event}
    (last : ∀ event ∈ events, ¬ event.Proposes fix.formulaId) (settled : fix.status ≠ .pending) :
    events.foldl (Event.change fix.formulaId) (some fix) = some fix := by
  induction events with
  | nil => rfl
  | cons event events ih =>
    obtain ⟨other, last⟩ := List.forall_mem_cons.mp last
    have unchanged : event.change fix.formulaId (some fix) = some fix := by
      cases event with
      | proposed formula replacement provenance verdict => exact if_neg other
      | decided decision =>
        rw [Event.change, Option.map_some, Decision.settle]
        split
        · rw [if_neg settled]
        · rfl
    rw [List.foldl_cons, unchanged, ih last]

/-- The first decision that takes a pending fix gives it its status. By induction on what comes
behind the proposal: from the first decision on, the fix is settled. -/
theorem foldl_change_of_pending (fix : Fix) {events : List Event}
    (last : ∀ event ∈ events, ¬ event.Proposes fix.formulaId) (pending : fix.status = .pending) :
    events.foldl (Event.change fix.formulaId) (some fix) =
      some { fix with
        status := (events.findSome? (Event.status? fix.formulaId fix.fixedIsValid)).getD
          .pending } := by
  induction events with
  | nil =>
    simp only [List.foldl_nil, List.findSome?_nil, Option.getD_none, ← pending]
  | cons event events ih =>
    obtain ⟨other, later⟩ := List.forall_mem_cons.mp last
    rw [List.foldl_cons, List.findSome?_cons]
    cases event with
    | proposed formula replacement provenance verdict =>
      have unchanged : formula.id ≠ fix.formulaId := other
      rw [Event.change, if_neg unchanged, Event.status?]
      exact ih later
    | decided decision =>
      rw [Event.change, Option.map_some, Decision.settle, Event.status?]
      cases taken : decision.status? fix.formulaId fix.fixedIsValid with
      | none => exact ih later
      | some status =>
        have decided : status ≠ .pending := decision.status_ne_pending taken
        dsimp only
        rw [if_pos pending]
        exact foldl_change_of_settled { fix with status := status } later decided

/-- A formula has a fix once a replacement has been proposed for it. -/
theorem isSome_foldl_change (events : List Event) (id : Text) (kept : Option Fix) :
    (events.foldl (Event.change id) kept).isSome = true ↔
      kept.isSome = true ∨ ∃ event ∈ events, event.Proposes id := by
  induction events generalizing kept with
  | nil => simp
  | cons event events ih =>
    have here : (event.change id kept).isSome = true ↔
        kept.isSome = true ∨ event.Proposes id := by
      cases event with
      | proposed formula replacement provenance verdict =>
        by_cases same : formula.id = id <;> simp [Event.change, Event.Proposes, same]
      | decided decision => simp [Event.change, Event.Proposes]
    rw [List.foldl_cons, ih, here, or_assoc]
    simp

section Results

variable {state : Type} [Holds Cache state] [Holds Registry state]

/-- The history of a registry determines its fixes, and the first decision wins. A formula has a fix
when one was proposed for it. All of the fix but the status comes from the latest proposal for the
formula, and the status from the first decision behind it that takes the fix: one on the formula
itself, or on all fixes, or on all that typeset when this one does. A proposal is accepted exactly
for the formulas of the registry and otherwise leaves everything as it is. Proposals and decisions
go on with the history, so there is one for every sequence of them. The number that a decision on
all fixes answers with is that of the fixes that it changes. -/
theorem first_decision_wins {events : List Event} {start final : state}
    (history : History events start final)
    (fresh : (Holds.view start : Registry).fixes = [])
    (distinct : ((Holds.view start : Registry).formulas.map Formula.id).Nodup) :
    let formulas := (Holds.view start : Registry).formulas
    let registry : Registry := Holds.view final
    (∀ id, registry.contains id = true ↔ ∃ event ∈ events, event.Proposes id) ∧
    (∀ before formula replacement provenance verdict after,
      events = before ++ .proposed formula replacement provenance verdict :: after →
      formula ∈ formulas ∧
      ((∀ event ∈ after, ¬ event.Proposes formula.id) →
        registry.fix? formula.id = some
          { formulaId := formula.id
            replacedRaw := formula.raw
            fixedRaw := replacement
            fixedWithDelimiters := formula.delimiter.wrap replacement
            fixedIsValid := verdict.success
            fixedErrorMessage := verdict.errorMessage
            status := (after.findSome? (Event.status? formula.id verdict.success)).getD .pending
            provenance := provenance })) ∧
    (∀ (renderer : Renderer state) id replacement provenance,
      let proposed := renderer.propose id replacement provenance final
      ((∀ formula ∈ formulas, formula.id ≠ id) → proposed = (.error ⟨id⟩, final)) ∧
      ∀ formula ∈ formulas, formula.id = id →
        let validated := renderer.validate ⟨replacement, formula.delimiter.isDisplay⟩ final
        proposed.1 = .ok (Fix.propose formula id replacement validated.1 provenance) ∧
        ∀ inside, History inside final validated.2 →
          History (events ++ (inside ++ [.proposed formula replacement provenance validated.1]))
            start proposed.2) ∧
    (∀ decision : Decision,
      History (events ++ [.decided decision]) start (Holds.update decision.apply final).2) ∧
    (∀ onlyValid, (registry.acceptAll onlyValid).1 = registry.fixes.countP fun fix =>
      (registry.acceptAll onlyValid).2.fix? fix.formulaId != registry.fix? fix.formulaId) ∧
    registry.rejectAll.1 = registry.fixes.countP fun fix =>
      registry.rejectAll.2.fix? fix.formulaId != registry.fix? fix.formulaId := by
  intro formulas registry
  have fixes (id : Text) : registry.fix? id = events.foldl (Event.change id) none := by
    rw [history.fix?_eq id, fix?, fresh]
    rfl
  have nodup : (registry.fixes.map Fix.formulaId).Nodup :=
    history.nodup_formulaId (by rw [fresh]; exact List.nodup_nil)
  have known : registry.formulas = formulas := history.same.2
  refine ⟨fun id => ?_, fun before formula replacement provenance verdict after split => ?_,
    fun renderer id replacement provenance => ⟨fun absent => ?_, ?_⟩,
    fun decision => history.trans (.decide decision final), fun onlyValid => ?_, ?_⟩
  · rw [contains, fixes, isSome_foldl_change]
    simp
  · refine ⟨history.mem_formulas (split ▸ List.mem_append_right _ (List.mem_cons_self ..)),
      fun last => ?_⟩
    rw [fixes, split, List.foldl_append, List.foldl_cons, Event.change, if_pos rfl]
    exact foldl_change_of_pending (.propose formula formula.id replacement verdict _) last rfl
  · refine Renderer.propose_of_unknown renderer replacement provenance ?_
    refine List.find?_eq_none.mpr fun formula member => ?_
    rw [List.mem_reverse] at member
    simpa using absent formula (known ▸ member)
  · rintro formula member rfl validated
    have found : registry.formula? formula.id = some formula :=
      formula?_of_mem (known ▸ distinct) (known ▸ member)
    refine ⟨?_, fun inside validates => history.trans (.propose _ _ final found validates)⟩
    rw [Renderer.propose_of_known renderer replacement provenance found]
  · exact countPending_eq_countP nodup (by decide) _
  · exact countPending_eq_countP nodup (by decide) _

end Results

/-- A renderer that has no markup for one replacement. -/
def choosy : Renderer (Desk Unit) := fun sample =>
  pure (if sample.latex = ['?'] then .error (.rejected "odd".toList) else .ok sample.latex)

/-- The first replacement does not typeset, so that accepting all that do leaves it to its
rejection. The fix of the second formula is accepted and then opened again by another proposal. -/
theorem first_decision_wins_reopened :
    let formula (id : Char) : Formula :=
      { id := [id], raw := ['x'], rawWithDelimiters := "$x$".toList, delimiter := .inlineDollar,
        startOffset := 0, endOffset := 3, lineNumber := 1 }
    let start : Desk Unit :=
      { cache := default, pool := Pool.ofWorkers 4, pooled := false, outside := ()
        registry := { formulas := [formula 'a', formula 'b'] } }
    let acts : List Act :=
      [ .propose ['a'] ['?'] "model".toList, .decide (.acceptAll true)
      , .propose ['b'] ['y'] "model".toList, .decide (.reject ['a']), .propose ['c'] [] Fix.manual
      , .decide (.accept ['b']), .decide (.accept ['a']), .propose ['b'] ['z'] Fix.manual ]
    let registry := (performAll choosy acts start).2.registry
    (registry.fix? ['a']).map Fix.status = some .rejected ∧
      (registry.fix? ['b']).map (fun fix => (fix.fixedRaw, fix.status)) = some (['z'], .pending) ∧
      registry.contains ['c'] = false ∧ registry.rejectAll.1 = 1 := by
  intro formula start acts registry
  have leaves (sample : Sample) : Within (Kept Registry) (choosy.validate sample) :=
    within_validate (fun _ desk => Eq.refl desk.registry) (fun _ => within_pure _) sample
  have happened : events choosy acts start =
      [ .proposed (formula 'a') ['?'] "model".toList
          { success := false, errorMessage := some "odd".toList }
      , .decided (.acceptAll true)
      , .proposed (formula 'b') ['y'] "model".toList { success := true, markup := some ['y'] }
      , .decided (.reject ['a']), .decided (.accept ['b']), .decided (.accept ['a'])
      , .proposed (formula 'b') ['z'] Fix.manual { success := true, markup := some ['z'] } ] := by
    decide +kernel
  obtain ⟨ids, fixes, -, -, -, rejected⟩ :=
    first_decision_wins (happened ▸ history_performAll leaves acts start) rfl (by decide)
  have first := (fixes [] _ _ _ _ _ rfl).2 (by decide)
  have last := (fixes [_, _, _, _, _, _] _ _ _ _ [] rfl).2 (by decide)
  refine ⟨?_, ?_, ?_, ?_⟩
  · exact (congrArg (Option.map _) first).trans (by decide +kernel)
  · exact (congrArg (Option.map _) last).trans (by decide +kernel)
  · exact Bool.eq_false_iff.mpr (mt (ids ['c']).mp (by decide))
  · exact rejected.trans (by decide +kernel)

end Registry

end FormulaRepair
