import FormulaRepair.Proofs.Desk.Minutes
import FormulaRepair.Proofs.Desk.Versions

/-! # What a batch accounts for

A batch comes to an outcome for each of its formulas, whatever the provider answers and does. The
formulas have their turns in order, and each turn sends one request at most.
-/

namespace FormulaRepair

variable {World problem : Type}

namespace RepairResult

/-- The problem, when the repair failed. -/
def problem? : RepairResult problem → Option (RepairProblem problem)
  | failed problem => some problem
  | fixed _ | stale => none

/-- Was the formula left aside, because its document is no longer there? -/
def isStale : RepairResult problem → Bool
  | stale => true
  | fixed _ | failed _ => false

/-- A result is a fix, a failure or stale, and never two of them. -/
theorem one_of_three (result : RepairResult problem) :
    (result.fix?.isSome ∧ result.problem?.isNone ∧ ¬ result.isStale) ∨
    (result.fix?.isNone ∧ result.problem?.isSome ∧ ¬ result.isStale) ∨
    (result.fix?.isNone ∧ result.problem?.isNone ∧ result.isStale) := by
  cases result <;> simp [fix?, problem?, isStale]

end RepairResult

namespace Repairer

variable (repairer : Repairer World problem)

/-- A batch may be stopped behind some of its formulas and taken up again. -/
theorem repairFrom_append (epoch : Nat) (formulas more : List Formula) (desk : Desk World) :
    repairer.repairFrom epoch (formulas ++ more) desk =
      let first := repairer.repairFrom epoch formulas desk
      let later := repairer.repairFrom epoch more first.2
      (first.1 ++ later.1, later.2) := by
  induction formulas generalizing desk with
  | nil => rfl
  | cons formula formulas ih =>
    rw [List.cons_append, repairFrom_cons_turn, repairFrom_cons_turn]
    simp only [ih, List.cons_append]

private theorem map_formulaId_repairFrom (epoch : Nat) (formulas : List Formula)
    (desk : Desk World) :
    (repairer.repairFrom epoch formulas desk).1.map RepairOutcome.formulaId =
      formulas.map Formula.id := by
  induction formulas generalizing desk with
  | nil => rfl
  | cons formula formulas ih =>
    rw [repairFrom_cons_turn]
    exact congrArg (formula.id :: ·) (ih _)

/-- In another epoch, nothing is done any more. -/
theorem repairFrom_of_other {epoch : Nat} {desk : Desk World} (other : desk.document.epoch ≠ epoch)
    (formulas : List Formula) : (repairer.repairFrom epoch formulas desk).2 = desk := by
  induction formulas with
  | nil => rfl
  | cons formula formulas ih =>
    rw [repairFrom_cons_turn, turn_eq, if_neg other]
    exact ih

end Repairer

/-- The formula is of the document version with the given epoch, and free to be repaired. -/
def Desk.isDue (desk : Desk World) (formula : Formula) (epoch : Nat) : Bool :=
  desk.isFresh formula epoch && !desk.isInFlight formula.id

private theorem Desk.isDue_of_other {desk : Desk World} {epoch : Nat}
    (other : desk.document.epoch ≠ epoch) (formula : Formula) :
    desk.isDue formula epoch = false := by
  have differs : (epoch : Int) ≠ desk.document.epoch := fun same =>
    other (Int.ofNat_inj.mp same).symm
  simp [isDue, isFresh, differs]

/-- How it goes when a formula of a batch has its turn: what is found `here` and is `left` on the
desk, what the result is, and what has been sent. -/
structure Turn (repairer : Repairer World problem) (epoch : Nat) (formula : Formula)
    (here left : Desk World) (result : RepairResult problem) (sent : List RepairRequest) :
    Prop where
  sent_eq : sent = if here.isDue formula epoch then
    [.about here.document.loaded formula repairer.contextSize] else []
  unfixed : result.fix? = none →
    left = here ∨ sent ≠ [] ∧ left = (repairer.answer formula here).2.unmark formula.id

section Turn

variable {repairer : Repairer World problem} {epoch : Nat} {formula : Formula}

private theorem turn_of_skipped {here : Desk World} (skipped : here.isDue formula epoch = false)
    (result : RepairResult problem) : Turn repairer epoch formula here here result [] :=
  ⟨by rw [skipped]; rfl, fun _ => .inl rfl⟩

private theorem turn_of_asked {here left : Desk World} {result : RepairResult problem}
    (fresh : here.isFresh formula epoch = true) (free : here.isInFlight formula.id = false)
    (unfixed : result.fix? = none → left = (repairer.answer formula here).2.unmark formula.id) :
    Turn repairer epoch formula here left result
      [.about here.document.loaded formula repairer.contextSize] :=
  ⟨by simp [Desk.isDue, fresh, free], fun none => .inr ⟨List.cons_ne_nil _ _, unfixed none⟩⟩

section Sent

variable {here left : Desk World} {result : RepairResult problem} {sent : List RepairRequest}

theorem Turn.length_le (turn : Turn repairer epoch formula here left result sent) :
    sent.length ≤ 1 := by
  rw [turn.sent_eq]
  split <;> simp

theorem Turn.of_mem (turn : Turn repairer epoch formula here left result sent)
    {request : RepairRequest} (member : request ∈ sent) :
    request = .about here.document.loaded formula repairer.contextSize ∧
      here.isDue formula epoch = true := by
  rw [turn.sent_eq] at member
  split at member
  · next due => exact ⟨List.mem_singleton.mp member, due⟩
  · cases member

private theorem Turn.ne_nil_iff (turn : Turn repairer epoch formula here left result sent) :
    sent ≠ [] ↔ here.isDue formula epoch = true := by
  rw [turn.sent_eq]
  split <;> simp [*]

end Sent

/-- What is sent in a turn is entered into the minutes. -/
theorem exists_turn (repairer : Repairer World problem) (epoch : Nat) (formula : Formula)
    (desk : Desk (Minuted World)) :
    let turned := repairer.minuted.turn epoch formula desk
    ∃ sent, turned.2.outside.requests = desk.outside.requests ++ sent ∧
      Turn repairer epoch formula desk.withoutMinutes turned.2.withoutMinutes turned.1 sent := by
  intro turned
  have turned_eq : turned = _ := repairer.minuted.turn_eq epoch formula desk
  have skips (skipped : desk.withoutMinutes.isDue formula epoch = false)
      (result : RepairResult problem) :
      ∃ sent, desk.outside.requests = desk.outside.requests ++ sent ∧
        Turn repairer epoch formula desk.withoutMinutes desk.withoutMinutes result sent :=
    ⟨[], (List.append_nil _).symm, turn_of_skipped skipped result⟩
  rw [turned_eq]
  split
  · have ends := repairer.minuted.ends_repair formula (some (epoch : Int)) desk
    rw [Option.getD_some] at ends
    dsimp only
    generalize (repairer.minuted.repair formula (some (epoch : Int)) desk).1 = result at ends ⊢
    generalize (repairer.minuted.repair formula (some (epoch : Int)) desk).2 = left at ends ⊢
    cases ends with
    | outdated old => exact skips (congrArg (· && _) old) _
    | running fresh running =>
      have marked : desk.withoutMinutes.isInFlight formula.id = true := running
      exact skips (by simp [Desk.isDue, marked]) _
    | failed fresh free => exact ⟨_, rfl, turn_of_asked fresh free fun _ => rfl⟩
    | overtaken fresh free => exact ⟨_, rfl, turn_of_asked fresh free fun _ => rfl⟩
    | @proposed reply fix proposed fresh free answered still proposes =>
      have sends := within_propose (fun _ _ => rfl) (fun _ _ => rfl)
        repairer.within_minuted_renderer formula.id reply.latex
        (repairer.minuted.provenance reply) (repairer.minuted.answer formula desk).2
      rw [proposes] at sends
      exact ⟨_, sends, turn_of_asked fresh free fun unfixed => by cases unfixed⟩
  · next other => exact skips (Desk.isDue_of_other other formula) _

end Turn

namespace Repairer

variable (repairer : Repairer World problem)

theorem repairAll_append (formulas more : List Formula) (desk : Desk World) :
    repairer.repairAll (formulas ++ more) desk =
      let first := repairer.repairAll formulas desk
      let later := repairer.repairFrom desk.document.epoch more first.2
      (first.1 ++ later.1, later.2) := repairer.repairFrom_append desk.document.epoch ..

theorem map_formulaId_repairAll (formulas : List Formula) (desk : Desk World) :
    (repairer.repairAll formulas desk).1.map RepairOutcome.formulaId = formulas.map Formula.id :=
  repairer.map_formulaId_repairFrom desk.document.epoch formulas desk

theorem length_repairAll (formulas : List Formula) (desk : Desk World) :
    (repairer.repairAll formulas desk).1.length = formulas.length := by
  simpa using congrArg List.length (repairer.map_formulaId_repairAll formulas desk)

/-- The desk that a batch with minutes leaves behind is that of the batch without them. -/
theorem withoutMinutes_repairAll (formulas : List Formula) (desk : Desk World) :
    (repairer.minuted.repairAll formulas desk.withMinutes).2.withoutMinutes =
      (repairer.repairAll formulas desk).2 :=
  congrArg Prod.snd (repairer.erases_repairAll formulas desk.withMinutes)

/-- The next formula has its turn on the desk that the batch has left behind so far. -/
theorem repairAll_next (before : List Formula) (formula : Formula) (desk : Desk World) :
    repairer.repairAll (before ++ [formula]) desk =
      let first := repairer.repairAll before desk
      let turned := repairer.turn desk.document.epoch formula first.2
      (first.1 ++ [⟨formula.id, turned.1⟩], turned.2) := by
  rw [repairAll_append]
  simp only [repairFrom_cons_turn]
  rfl

theorem exists_turn_next (before : List Formula) (formula : Formula) (desk : Desk World) :
    let here := (repairer.repairAll before desk).2
    let turned := repairer.turn desk.document.epoch formula here
    ∃ sent, repairer.requests (before ++ [formula]) desk = repairer.requests before desk ++ sent ∧
      Turn repairer desk.document.epoch formula here turned.2 turned.1 sent := by
  intro here turned
  obtain ⟨sent, requests, turn⟩ := exists_turn repairer desk.document.epoch formula
    (repairer.minuted.repairAll before desk.withMinutes).2
  have erased := repairer.erases_turn desk.document.epoch formula
    (repairer.minuted.repairAll before desk.withMinutes).2
  rw [withoutMinutes_repairAll] at erased turn
  refine ⟨sent, ?_, ?_⟩
  · rw [Repairer.requests, repairAll_next]
    exact requests
  · rw [← Prod.ext_iff.mp erased |>.1, ← Prod.ext_iff.mp erased |>.2]
    exact turn

/-- Once another epoch has begun, nothing more is sent and nothing more is done. -/
theorem repairAll_of_other {before : List Formula} {desk : Desk World}
    (other : (repairer.repairAll before desk).2.document.epoch ≠ desk.document.epoch)
    (after : List Formula) :
    repairer.requests (before ++ after) desk = repairer.requests before desk ∧
      (repairer.repairAll (before ++ after) desk).2 = (repairer.repairAll before desk).2 := by
  constructor
  · have otherNoted : (repairer.minuted.repairAll before desk.withMinutes).2.document.epoch ≠
        desk.withMinutes.document.epoch := by
      rw [← withoutMinutes_repairAll] at other
      exact other
    rw [Repairer.requests, repairAll_append, repairer.minuted.repairFrom_of_other otherNoted]
    rfl
  · rw [repairAll_append]
    exact repairer.repairFrom_of_other other after

/-- A batch never stops early and accounts for every formula: it has one outcome for each of them,
in order and under its id, which is a fix, a failure or stale. Keeping minutes of its requests
changes nothing. At its turn a formula sends one request at most, and sends it only if it is one of
the document on the desk, as far as its id, its span and its text go, in the epoch in which the
batch began; when another epoch has begun, nothing is sent for it and the ones behind it, and
nothing is done. Without a fix, the desk is left as it was, or as the provider left it when it was
asked. -/
theorem repairAll_accounts {start desk : Desk World} (blank : start.Blank)
    (reached : Desk.Course (fun _ => True) start desk)
    (renders : ∀ sample, Within (Desk.Course fun _ => True) (repairer.renderer sample))
    (provides : ∀ request, Within (Desk.Course fun _ => True) (repairer.provider.repair request))
    (formulas : List Formula) :
    let ended := repairer.repairAll formulas desk
    let minuted := repairer.minuted.repairAll formulas desk.withMinutes
    (minuted.1, minuted.2.withoutMinutes) = ended ∧
    ended.1.map RepairOutcome.formulaId = formulas.map Formula.id ∧
    (∀ outcome ∈ ended.1,
      (outcome.result.fix?.isSome ∧ outcome.result.problem?.isNone ∧ ¬ outcome.result.isStale) ∨
      (outcome.result.fix?.isNone ∧ outcome.result.problem?.isSome ∧ ¬ outcome.result.isStale) ∨
      (outcome.result.fix?.isNone ∧ outcome.result.problem?.isNone ∧ outcome.result.isStale)) ∧
    ∀ before formula after, formulas = before ++ formula :: after →
      let here := (repairer.repairAll before desk).2
      let left := (repairer.repairAll (before ++ [formula]) desk).2
      ∃ result sent,
        ended.1[before.length]? = some ⟨formula.id, result⟩ ∧
        repairer.requests (before ++ [formula]) desk = repairer.requests before desk ++ sent ∧
        sent.length ≤ 1 ∧
        (∀ request ∈ sent,
          request = .about here.document.loaded formula repairer.contextSize ∧
          here.document.epoch = desk.document.epoch ∧
          ∃ known ∈ here.document.formulas, known.id = formula.id ∧
            known.startOffset = formula.startOffset ∧ known.endOffset = formula.endOffset ∧
            known.rawWithDelimiters = formula.rawWithDelimiters) ∧
        (sent ≠ [] ↔ here.isDue formula desk.document.epoch) ∧
        (here.document.epoch ≠ desk.document.epoch → result.isStale ∧
          repairer.requests formulas desk = repairer.requests before desk ∧ ended.2 = here) ∧
        (result.fix? = none →
          left = here ∨ sent ≠ [] ∧ left = (repairer.answer formula here).2.unmark formula.id) := by
  refine ⟨repairer.erases_repairAll formulas desk.withMinutes,
    repairer.map_formulaId_repairAll formulas desk,
    fun outcome _ => outcome.result.one_of_three, ?_⟩
  rintro before formula after rfl here left
  obtain ⟨sent, requests, turn⟩ := repairer.exists_turn_next before formula desk
  have versioned : here.Versioned fun _ => True :=
    ((reached.trans (Desk.course_repairAll renders provides before desk
      fun _ _ _ _ _ => trivial)).carries blank.versioned).1
  refine ⟨(repairer.turn desk.document.epoch formula here).1, sent, ?_, requests, turn.length_le,
    fun request member => ?_, turn.ne_nil_iff, fun other => ?_, fun unfixed => ?_⟩
  · rw [repairAll_append, List.getElem?_append_right (repairer.length_repairAll before desk).le,
      length_repairAll, Nat.sub_self, repairFrom_cons_turn]
    rfl
  · obtain ⟨about, due⟩ := turn.of_mem member
    obtain ⟨same, known⟩ := versioned.exists_of_isFresh (Bool.and_eq_true_iff.mp due).1
    exact ⟨about, Int.ofNat_inj.mp same, known⟩
  · refine ⟨?_, repairer.repairAll_of_other other _⟩
    rw [turn_eq, if_neg other]
    rfl
  · have left_eq : left = (repairer.turn desk.document.epoch formula here).2 :=
      congrArg Prod.snd (repairer.repairAll_next before formula desk)
    rw [left_eq]
    exact turn.unfixed unfixed

/-- A provider that has a reply for one formula and none for another one, and that replaces the
document when it is asked about any other. -/
def moody : Repairer Unit Unit where
  renderer _ := pure (.ok [])
  provider :=
    { name := "scribe".toList
      repair := fun request desk =>
        if request.latex = "a".toList then (.ok ⟨"A".toList, []⟩, desk)
        else if request.latex = "b".toList then (.error (), desk)
        else (.ok ⟨"C".toList, []⟩, desk.load none "$a$".toList) }
  contextSize := 0

theorem repairAll_accounts_moody :
    let blank : Desk Unit := { cache := default, pool := default, pooled := false, outside := () }
    let scanned := Scan.formulas "$a$ $b$ $c$".toList
    let desk := (blank.load none "$a$ $b$ $c$".toList).setFormulas scanned
    let foreign := Scan.formulas "$$c$$ $x$ $y$ $z$".toList
    let batch := scanned.take 1 ++ foreign ++ scanned ++ scanned
    let ended := moody.repairAll batch desk
    (ended.1.map fun outcome => (outcome.result.fix?.isSome, outcome.result.isStale)) =
        [ (true, false), (false, true), (false, true), (false, true), (false, true), (true, false)
        , (false, false), (false, true), (false, true), (false, true), (false, true) ] ∧
      (moody.requests batch desk).map RepairRequest.latex =
        ["a".toList, "a".toList, "b".toList, "c".toList] ∧
      ended.1.map RepairOutcome.formulaId = batch.map Formula.id ∧
      ended.2.registry.fixes = [] := by
  intro blank scanned desk foreign batch ended
  have reached : Desk.Course (fun _ => True) blank desk :=
    .trans (.load blank none _) (.setFormulas _ _)
  have provides (request : RepairRequest) :
      Within (Desk.Course fun _ => True) (moody.provider.repair request) := by
    intro desk
    unfold moody
    dsimp only
    split
    · exact .idle rfl rfl
    · split
      · exact .idle rfl rfl
      · exact .load desk none _
  have renders (sample : Sample) : Within (Desk.Course fun _ => True) (moody.renderer sample) :=
    fun _ => .idle rfl rfl
  have accounts := moody.repairAll_accounts ⟨rfl, rfl⟩ reached renders provides batch
  exact ⟨by decide +kernel, by decide +kernel, accounts.2.1, by decide +kernel⟩

end Repairer

end FormulaRepair
