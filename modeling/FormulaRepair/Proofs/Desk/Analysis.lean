import FormulaRepair.Proofs.Desk.Deeds
import FormulaRepair.Proofs.Pool.AnyOrder

/-! # An analysis is kept as a whole or not at all

While an analysis waits for its typesetters, they may load documents and set the epoch of the pool.
If neither has happened, the analysis puts all formulas of the document on the desk; otherwise it
leaves the desk to the documents that have been loaded. This is so for formulas validated one after
the other, in the pool in their turn, and in the pool in whatever order the work is done.
-/

namespace FormulaRepair

variable {Outside : Type}

namespace Pool

section Responses

variable {state : Type} [Holds Cache state]

/-- The validations in the pool are those of the formulas one after the other. -/
theorem respondAll_eq (renderer : Renderer state) (work : List (Formula × Ticket)) (whole : state) :
    let responded := respondAll renderer work whole
    let validated := renderer.validateAll (work.map Prod.fst) whole
    responded.2 = validated.2 ∧
      responded.1.map (fun response => response.1.withVerdict response.2.verdict) = validated.1 ∧
      responded.1.map (fun response => response.2.ticket) = work.map Prod.snd := by
  induction work generalizing whole with
  | nil => exact ⟨rfl, rfl, rfl⟩
  | cons task work ih =>
    obtain ⟨left, formulas, tickets⟩ := ih (renderer.validate task.1.sample whole).2
    exact ⟨left, congrArg (_ :: ·) formulas, congrArg (_ :: ·) tickets⟩

end Responses

/-- A response that is old leaves nothing. -/
theorem collect?_of_old {pool : Pool} {responses : List (Formula × Response)}
    {response : Formula × Response} (member : response ∈ responses)
    (old : pool.isCurrent response.2.ticket = false) : pool.collect? responses = none := by
  induction responses with
  | nil => cases member
  | cons first responses ih =>
    rcases List.mem_cons.mp member with rfl | later
    · simp [collect?, verdict?, old]
    · rw [collect?, ih later]
      cases pool.verdict? first.2 <;> rfl

end Pool

namespace Desk

section InTurn

variable {renderer : Renderer (Desk Outside)} {desk : Desk Outside}

/-- The desk on which the validations of formulas begin. -/
def handIn (desk : Desk Outside) (formulas : List Formula) : Desk Outside :=
  if desk.pooled then (Pool.submitAll formulas desk).2 else desk

private theorem unmoved_handIn (desk : Desk Outside) (formulas : List Formula) :
    Unmoved desk (desk.handIn formulas) := by
  unfold handIn
  split
  · exact within_submitAll (fun _ _ => ⟨rfl, rfl, rfl⟩) formulas desk
  · exact Std.Refl.refl desk

/-- In an open pool, the validations count if all of their tickets are still current. -/
theorem check_of_open (pooled : desk.pooled = true) (accepting : desk.pool.closed = false)
    {formulas : List Formula} (distinct : (formulas.map Formula.id).Nodup) :
    let submitted := (Pool.submitAll formulas desk).2
    let validated := renderer.validateAll formulas submitted
    ∃ tickets : List Ticket, (tickets = [] ↔ formulas = []) ∧
      (∀ ticket ∈ tickets, submitted.pool.isCurrent ticket = true) ∧
      check renderer formulas desk =
        (.ok (if ∀ ticket ∈ tickets, validated.2.pool.isCurrent ticket = true then
          some validated.1 else none), validated.2) := by
  intro submitted validated
  have accepts : (Holds.view desk : Pool).closed = false := accepting
  obtain ⟨work, handedIn, listed, current⟩ := Pool.submitAll_of_open distinct accepts
  obtain ⟨left, formulas_eq, tickets_eq⟩ := Pool.respondAll_eq renderer work submitted
  rw [listed] at left formulas_eq
  refine ⟨work.map Prod.snd, by simp [← listed], ?_, ?_⟩
  · rintro ticket member
    obtain ⟨task, handed, rfl⟩ := List.mem_map.mp member
    exact current task handed
  · have answered : check renderer formulas desk =
        (.ok (validated.2.pool.collect? (Pool.respondAll renderer work submitted).1),
          validated.2) := by
      simp only [check, run_bind, run_get, pooled, ↓reduceIte, Pool.validateFormulas, handedIn]
      rw [← left]
      rfl
    rw [answered, ← tickets_eq, ← formulas_eq]
    split
    · next all =>
      rw [Pool.collect?_of_current fun response member =>
        all _ (List.mem_map_of_mem member)]
    · next old =>
      simp only [List.mem_map, forall_exists_index, and_imp, forall_apply_eq_imp_iff₂] at old
      push Not at old
      obtain ⟨response, member, old⟩ := old
      rw [Pool.collect?_of_old member (Bool.eq_false_iff.mpr old)]

/-- With nothing but deeds done meanwhile, the formulas are dropped if the pool has them and
something was done. -/
theorem check_of_interlude (accepting : desk.pooled = true → desk.pool.closed = false)
    {formulas : List Formula} (distinct : (formulas.map Formula.id).Nodup) {deeds : List Deed}
    (interlude : Interlude deeds (desk.handIn formulas)
      (renderer.validateAll formulas (desk.handIn formulas)).2) :
    let validated := renderer.validateAll formulas (desk.handIn formulas)
    check renderer formulas desk =
      (.ok (if desk.pooled = true ∧ formulas ≠ [] ∧ deeds ≠ [] then none else some validated.1),
        validated.2) := by
  cases pooled : desk.pooled with
  | false =>
    simp only [handIn, check, run_bind, run_get, pooled, Bool.false_eq_true, ↓reduceIte, false_and]
    rfl
  | true =>
    simp only [handIn, pooled, ↓reduceIte] at interlude ⊢
    obtain ⟨tickets, empty, current, checked⟩ := check_of_open pooled (accepting pooled) distinct
    have undone : (∀ ticket ∈ tickets, (renderer.validateAll formulas
        (Pool.submitAll formulas desk).2).2.pool.isCurrent ticket = true) ↔
          formulas = [] ∨ deeds = [] := by
      simp only [interlude.pool, isCurrent_performAll, ← empty]
      refine ⟨fun all => ?_, ?_⟩
      · rcases tickets with _ | ⟨ticket, tickets⟩
        · exact .inl rfl
        · exact .inr (all ticket (List.mem_cons_self ..)).1
      · rintro (rfl | none)
        · simp
        · exact fun ticket member => ⟨none, current ticket member⟩
    rw [checked]
    simp only [undone, true_and, ne_eq, ← not_or, ite_not]

end InTurn

section Ends

/-- How an analysis ends with what has been checked, when it began in the given epoch. -/
def conclude (epoch : Nat) (checked : Option (List Formula)) (desk : Desk Outside) :
    Except PoolClosed (List Formula) × Desk Outside :=
  match checked with
  | none => (.ok [], desk)
  | some formulas =>
      if desk.document.epoch = epoch then (.ok formulas, desk.setFormulas formulas)
      else (.ok [], desk)

private theorem analyze_of_checked {renderer : Renderer (Desk Outside)} {desk left : Desk Outside}
    {checked : Option (List Formula)}
    (answered : check renderer (Scan.formulas desk.document.loaded) desk = (.ok checked, left)) :
    analyze renderer desk = conclude desk.document.epoch checked left := by
  simp only [analyze_eq, answered]
  cases checked <;> rfl

/-- What an analysis has found is too old for the desk that was left: another epoch has begun, or
the epoch of the pool was set while the pool had the formulas. -/
def Superseded (desk : Desk Outside) (deeds : List Deed) (left : Desk Outside) : Prop :=
  left.document.epoch ≠ desk.document.epoch ∨
    desk.pooled = true ∧ Scan.formulas desk.document.loaded ≠ [] ∧ deeds ≠ []

/-- How an analysis of a desk ends when the formulas have been validated and the deeds meanwhile
have left the desk as given. Either it keeps all formulas, in the same document and with an empty
registry, or it answers that there are none and does nothing. -/
structure AllOrNothing (desk : Desk Outside) (deeds : List Deed) (formulas : List Formula)
    (left : Desk Outside) (ended : Except PoolClosed (List Formula) × Desk Outside) : Prop where
  complete : FoundIn desk.document.loaded formulas
  leftBy : LeftBy deeds desk left
  kept_iff : ended = (.ok formulas, left.setFormulas formulas) ↔ ¬ Superseded desk deeds left
  dropped_iff : ended = (.ok [], left) ↔ Superseded desk deeds left
  kept : ¬ Superseded desk deeds left →
    ended.2.document = { desk.document with formulas := formulas } ∧
      ended.2.registry = { edition := desk.registry.edition + 1, formulas := formulas }

private theorem setFormulas_ne (desk : Desk Outside) (formulas : List Formula) :
    desk.setFormulas formulas ≠ desk := fun same =>
  Nat.succ_ne_self _ (congrArg (fun desk => desk.registry.edition) same)

/-- It is enough that the pool drops the formulas when its epoch was set. -/
theorem allOrNothing_conclude {desk left : Desk Outside} {deeds : List Deed}
    {formulas : List Formula} (complete : FoundIn desk.document.loaded formulas)
    (leftBy : LeftBy deeds desk left) {checked : Option (List Formula)}
    (checked_eq : checked =
      if desk.pooled = true ∧ Scan.formulas desk.document.loaded ≠ [] ∧ deeds ≠ [] then none
      else some formulas) :
    AllOrNothing desk deeds formulas left (conclude desk.document.epoch checked left) := by
  have apart : (Except.ok (ε := PoolClosed) formulas, left.setFormulas formulas) ≠ (.ok [], left) :=
    fun same => setFormulas_ne _ _ (congrArg Prod.snd same)
  by_cases old : Superseded desk deeds left
  · have ended : conclude desk.document.epoch checked left = (.ok [], left) := by
      rw [checked_eq]
      rcases old with other | set
      · split <;> simp [conclude, other]
      · rw [if_pos set, conclude]
    rw [ended]
    refine ⟨complete, leftBy, by simp [old, apart.symm], by simp [old], fun fresh => ?_⟩
    exact absurd old fresh
  · obtain ⟨same, unset⟩ := not_or.mp old
    have same : left.document.epoch = desk.document.epoch := not_not.mp same
    have ended : conclude desk.document.epoch checked left =
        (.ok formulas, left.setFormulas formulas) := by
      rw [checked_eq, if_neg unset, conclude, if_pos same]
    have unloaded : Deed.loads deeds = [] := by
      rw [leftBy.document, epoch_loadAll] at same
      exact List.length_eq_zero_iff.mp (by omega)
    have document : left.document = desk.document := by rw [leftBy.document, unloaded]; rfl
    have registry : left.registry = desk.registry := by rw [leftBy.registry, unloaded]; rfl
    rw [ended]
    refine ⟨complete, leftBy, by simp [old], by simp [old, apart], fun _ => ⟨?_, ?_⟩⟩
    · rw [← document]
      rfl
    · rw [← registry]
      rfl

end Ends

section AnyOrder

variable {verdicts : Verdicts} {slots : List Text} {deeds more : List Deed}
  {first between last : Pool.Session (Desk Outside)}

/-- A validation in the pool, in the course of which typesetters that are at work on its tasks do
something to the desk, and change their own state and the cache. -/
inductive Round (verdicts : Verdicts) (slots : List Text) (first : Pool.Session (Desk Outside)) :
    List Deed → Pool.Session (Desk Outside) → Prop
  | idle : Round verdicts slots first [] first
  | own {deeds : List Deed} {move : Pool.Move} {session next : Pool.Session (Desk Outside)} :
      Round verdicts slots first deeds session → move.isOwn = true →
      Pool.Step verdicts slots move session next → Round verdicts slots first deeds next
  | meddle {deeds more : List Deed} {session : Pool.Session (Desk Outside)} {left : Desk Outside} :
      Round verdicts slots first deeds session →
      (∃ task ∈ session.tasks, task.isRendering = true) →
      Interlude more session.whole left →
      (session.whole.cache.AllowedBy verdicts → left.cache.AllowedBy verdicts) →
      Round verdicts slots first (deeds ++ more) { session with whole := left }

/-- The pool of a desk is not in its cache. -/
theorem overlooks_keptCache : Overlooks Pool (Kept Cache : Desk Outside → Desk Outside → Prop) :=
  fun _ _ => rfl

theorem overlooks_keptPool : Overlooks Cache (Kept Pool : Desk Outside → Desk Outside → Prop) :=
  fun _ _ => rfl

/-- For the pool, a deed sets the epoch. -/
theorem Deed.history (deed : Deed) (desk : Desk Outside) :
    ∃ epoch, Pool.History [.setEpoch epoch] desk (deed.perform desk) := by
  cases deed with
  | load path content => exact ⟨_, .trans (.setEpoch _ desk) (.idle rfl)⟩
  | setEpoch epoch => exact ⟨epoch, .setEpoch epoch desk⟩

private theorem exists_history_performAll (desk : Desk Outside) (deeds : List Deed) :
    ∃ epochs : List Int,
      Pool.History (epochs.map Pool.Event.setEpoch) desk (desk.performAll deeds) := by
  induction deeds generalizing desk with
  | nil => exact ⟨[], .idle rfl⟩
  | cons deed deeds ih =>
    obtain ⟨epoch, first⟩ := deed.history desk
    obtain ⟨epochs, later⟩ := ih (deed.perform desk)
    exact ⟨epoch :: epochs, first.trans later⟩

theorem Interlude.around {before after : Desk Outside} (interlude : Interlude deeds before after)
    (allowed : before.cache.AllowedBy verdicts → after.cache.AllowedBy verdicts) :
    ∃ events, Pool.Around verdicts slots events before after := by
  obtain ⟨epochs, history⟩ := exists_history_performAll before deeds
  refine ⟨_, history.trans (.idle interlude.pool), ?_, by simp, allowed⟩
  simp

/-- The moves of a validation reach neither the document nor the registry. -/
theorem unmoved_of_own {move : Pool.Move} {session next : Pool.Session (Desk Outside)}
    (step : Pool.Step verdicts slots move session next) (own : move.isOwn = true) :
    Unmoved session.whole next.whole := by
  cases step with
  | handIn | check => exact ⟨rfl, rfl, rfl⟩
  | work work => cases work <;> exact ⟨rfl, rfl, rfl⟩
  | around => cases own

namespace Round

theorem trans (earlier : Round verdicts slots first deeds between)
    (later : Round verdicts slots between more last) :
    Round verdicts slots first (deeds ++ more) last := by
  induction later with
  | idle =>
    rw [List.append_nil]
    exact earlier
  | own _ own step ih => exact ih.own own step
  | meddle _ busy interlude allowed ih =>
    rw [← List.append_assoc]
    exact ih.meddle busy interlude allowed

theorem leftBy (round : Round verdicts slots first deeds last) :
    LeftBy deeds first.whole last.whole := by
  induction round with
  | idle => exact ⟨rfl, rfl⟩
  | own _ own step ih => exact ih.of_unmoved (unmoved_of_own step own)
  | meddle _ _ interlude _ ih => exact ih.interlude interlude

theorem workers_eq (round : Round verdicts slots first deeds last) :
    last.whole.pool.workers = first.whole.pool.workers := by
  induction round with
  | idle => rfl
  | own _ _ step ih => exact (step.workers_eq overlooks_keptPool).trans ih
  | meddle _ _ interlude allowed ih =>
    obtain ⟨events, around⟩ := @Interlude.around _ _ slots _ _ _ interlude allowed
    exact around.history.workers_eq.trans ih

/-- Moves of the validation go on with the round. -/
theorem run {moves : List Pool.Move} (run : Pool.Run verdicts slots moves first last)
    (own : ∀ move ∈ moves, move.isOwn = true) : Round verdicts slots first [] last := by
  induction run with
  | idle => exact .idle
  | snoc _ step ih =>
    obtain ⟨before, here⟩ := List.forall_mem_append.mp own
    exact (ih before).own (here _ (List.mem_singleton_self _)) step

/-- Rounds cover validation in the pool in turn, with what the renderer does to the desk. -/
theorem covers {renderer : Renderer (Desk Outside)}
    (meddles : ∀ sample, Within Meddled (renderer sample)) (gives : renderer.Gives verdicts) :
    Pool.Covers verdicts slots renderer fun session next =>
      ∃ deeds, Round verdicts slots session deeds next where
  refl _ := ⟨[], .idle⟩
  trans := fun ⟨_, earlier⟩ ⟨_, later⟩ => ⟨_, earlier.trans later⟩
  own own step := ⟨[], Round.idle.own own step⟩
  renders sample whole _ _ _ busy := by
    obtain ⟨deeds, interlude⟩ := meddles sample whole
    exact ⟨_, Round.idle.meddle busy interlude (gives.allowed sample whole)⟩
  workers_eq := fun ⟨_, round⟩ => round.workers_eq

variable {formulas : List Formula}

/-- The answers that a validation has taken and will take count as long as nothing is done. A deed
is done while there is a task, which it makes old. -/
theorem sound (round : Round verdicts (formulas.map Formula.id) first deeds last)
    (distinct : (formulas.map Formula.id).Nodup) (start : first.Sound verdicts formulas [])
    (intact : first.IsIntact) :
    ∃ moves, last.Sound verdicts formulas moves ∧ (last.IsIntact ↔ deeds = []) ∧
      (deeds ≠ [] → formulas ≠ []) := by
  induction round with
  | idle => exact ⟨[], start, by simp [intact], by simp⟩
  | own _ own step ih =>
    obtain ⟨moves, sound, undone, filled⟩ := ih
    have same := sound.isIntact_of_own overlooks_keptCache overlooks_keptPool distinct step own
    exact ⟨_, sound.step overlooks_keptCache overlooks_keptPool distinct step,
      same.trans undone, filled⟩
  | @meddle deeds more session left _ busy interlude allowed ih =>
    obtain ⟨moves, sound, undone, -⟩ := ih
    obtain ⟨task, member, -⟩ := busy
    have filled : session.tasks ≠ [] := List.ne_nil_of_mem member
    obtain ⟨events, around⟩ := interlude.around allowed
    have current (ticket : Ticket) : left.pool.isCurrent ticket = true ↔
        more = [] ∧ session.whole.pool.isCurrent ticket = true := by
      rw [interlude.pool]
      exact isCurrent_performAll session.whole more ticket
    refine ⟨_, sound.step overlooks_keptCache overlooks_keptPool distinct (.around around), ?_,
      fun _ none => ?_⟩
    · have all : (∀ task ∈ session.tasks, left.pool.isCurrent task.ticket = true) ↔
          more = [] ∧ ∀ task ∈ session.tasks, session.whole.pool.isCurrent task.ticket = true := by
        simp only [current]
        exact ⟨fun all => ⟨(all task member).1, fun task member => (all task member).2⟩,
          fun ⟨nothing, all⟩ task member => ⟨nothing, all task member⟩⟩
      have next : Pool.Session.IsIntact { session with whole := left } ↔
          more = [] ∧ session.IsIntact := (and_congr_right fun _ => all).trans and_left_comm
      rw [next, undone, List.append_eq_nil_iff, and_comm]
    · obtain ⟨checked, judged, split, -⟩ := sound.listed
      rw [none] at split
      simp [filled] at split

/-- A validation that is done has verdicts that may be given on all formulas, and has kept them all
if nothing was done. -/
theorem kept_eq (round : Round verdicts (formulas.map Formula.id) first deeds last)
    (distinct : (formulas.map Formula.id).Nodup) (start : first.Sound verdicts formulas [])
    (intact : first.IsIntact) (done : last.IsDone) :
    ∃ judged, List.Forall₂ (Formula.JudgedBy verdicts) formulas judged ∧
      last.kept = if formulas ≠ [] ∧ deeds ≠ [] then none else some judged := by
  obtain ⟨moves, sound, undone, filled⟩ := round.sound distinct start intact
  obtain ⟨checked, judged, split, all, kept_eq⟩ := sound.listed
  rw [done.1, done.2, List.map_nil, List.nil_append, List.append_nil] at split
  rw [← split] at all
  simp only [Pool.Session.IsIntact, done.2, List.not_mem_nil, false_implies, implies_true,
    and_true] at undone
  refine ⟨judged, all, ?_⟩
  cases kept : last.kept with
  | none =>
    have interrupted : deeds ≠ [] := fun none => by simp [kept, none] at undone
    rw [if_pos ⟨filled interrupted, interrupted⟩]
  | some formulas =>
    obtain rfl : deeds = [] := undone.mp (by rw [kept]; rfl)
    rw [if_neg (by simp), kept_eq formulas kept]

/-- A validation that starts in an open pool can always be brought to its end. -/
private theorem exists_completion (round : Round verdicts (formulas.map Formula.id) first deeds last)
    (distinct : (formulas.map Formula.id).Nodup) (start : first.Sound verdicts formulas [])
    (intact : first.IsIntact)
    (served : ∀ sample, ∃ rendering, verdicts sample (.ofRendering rendering)) :
    ∃ finished, Round verdicts (formulas.map Formula.id) last [] finished ∧ finished.IsDone := by
  obtain ⟨moves, sound, -⟩ := round.sound distinct start intact
  obtain ⟨more, finished, run, done, own⟩ :=
    sound.exists_completion served overlooks_keptCache overlooks_keptPool distinct
  exact ⟨finished, .run run own, done⟩

end Round

end AnyOrder

section Analyses

variable {desk : Desk Outside} {verdicts : Verdicts} {deeds : List Deed}
  {renderer : Renderer (Desk Outside)} {session : Pool.Session (Desk Outside)}

private theorem allOrNothing_analyze (accepting : desk.pooled = true → desk.pool.closed = false)
    (interlude : Interlude deeds (desk.handIn (Scan.formulas desk.document.loaded))
      (renderer.validateAll (Scan.formulas desk.document.loaded)
        (desk.handIn (Scan.formulas desk.document.loaded))).2) :
    let validated := renderer.validateAll (Scan.formulas desk.document.loaded)
      (desk.handIn (Scan.formulas desk.document.loaded))
    AllOrNothing desk deeds validated.1 validated.2 (analyze renderer desk) := by
  have distinct := Scan.nodup_map_id_formulas desk.document.loaded
  have begun : LeftBy [] desk (desk.handIn (Scan.formulas desk.document.loaded)) :=
    .of_unmoved ⟨rfl, rfl⟩ (unmoved_handIn desk _)
  rw [analyze_of_checked (check_of_interlude accepting distinct interlude)]
  exact allOrNothing_conclude ((validateAll_asFound ..).trans (Scan.map_asFound_formulas _))
    (begun.interlude interlude) rfl

/-- The validation of the formulas that an analysis has found is a session in an open pool. -/
private theorem sound_scan (accepting : desk.pool.closed = false)
    (manned : 0 < desk.pool.workers) (allowed : desk.cache.AllowedBy verdicts) :
    let scan := Scan.formulas desk.document.loaded
    let start : Pool.Session (Desk Outside) := ⟨desk, scan, [], some []⟩
    start.Sound verdicts scan [] ∧ start.IsIntact :=
  ⟨Pool.Session.sound_start accepting manned allowed, by simp [Pool.Session.IsIntact]⟩

private theorem Round.allOrNothing (pooled : desk.pooled = true)
    (accepting : desk.pool.closed = false) (manned : 0 < desk.pool.workers)
    (allowed : desk.cache.AllowedBy verdicts)
    (round : Round verdicts ((Scan.formulas desk.document.loaded).map Formula.id)
      ⟨desk, Scan.formulas desk.document.loaded, [], some []⟩ deeds session)
    (done : session.IsDone) :
    ∃ judged, List.Forall₂ (Formula.JudgedBy verdicts) (Scan.formulas desk.document.loaded) judged ∧
      AllOrNothing desk deeds judged session.whole
        (conclude desk.document.epoch session.kept session.whole) := by
  obtain ⟨start, intact⟩ := sound_scan accepting manned allowed
  obtain ⟨judged, all, kept_eq⟩ :=
    round.kept_eq (Scan.nodup_map_id_formulas _) start intact done
  refine ⟨judged, all, allOrNothing_conclude ?_ round.leftBy ?_⟩
  · exact (map_asFound_of_judgedBy all).trans (Scan.map_asFound_formulas _)
  · rw [kept_eq]
    simp only [pooled, true_and]

/-- An analysis in the pool in turn is one of the rounds. -/
private theorem exists_round_analyze (pooled : desk.pooled = true)
    (accepting : desk.pool.closed = false) (manned : 0 < desk.pool.workers)
    (meddles : ∀ sample, Within Meddled (renderer sample)) (gives : renderer.Gives verdicts) :
    let scan := Scan.formulas desk.document.loaded
    ∃ deeds session, Round verdicts (scan.map Formula.id) ⟨desk, scan, [], some []⟩ deeds session ∧
      session.IsDone ∧
      analyze renderer desk = conclude desk.document.epoch session.kept session.whole := by
  intro scan
  obtain ⟨session, ⟨deeds, round⟩, done, answered⟩ :=
    (Round.covers meddles gives).validateFormulas gives.given accepting manned
  have checked : check renderer scan desk = (.ok session.kept, session.whole) := by
    simp only [check, run_bind, run_get, pooled, ↓reduceIte]
    exact answered
  exact ⟨deeds, session, round, done, analyze_of_checked checked⟩

end Analyses

/-- A typesetter that does something to the desk whenever it is at work. -/
def busyWith (deeds : List Deed) : Renderer (Desk Unit) := fun sample desk =>
  (.ok sample.latex, desk.performAll deeds)

/-- A desk with two formulas and a pool. -/
def twoOnDesk : Desk Unit where
  cache := default
  pool := Pool.ofWorkers 2
  pooled := true
  document := { loaded := "$a$ $b$".toList, current := "$a$ $b$".toList }
  outside := ()

/-- A document is loaded while the first formula is rendered and the second one is not yet handed
in. -/
private theorem exists_round_loading :
    let scan := Scan.formulas twoOnDesk.document.loaded
    ∃ session, session.unsent ≠ [] ∧
      Round (.only fun sample => .ok sample.latex) (scan.map Formula.id)
        ⟨twoOnDesk, scan, [], some []⟩ [.load none "$c$".toList] session := by
  intro scan
  have two : scan.length = 2 := by decide +kernel
  obtain ⟨first, second, split⟩ := List.length_eq_two.mp two
  let ticket : Ticket := ⟨1, 0, first.id⟩
  let handedIn := (Pool.submit first.id twoOnDesk).2
  have submits : Pool.Step (.only fun sample => .ok sample.latex) (scan.map Formula.id) .handIn
      ⟨twoOnDesk, scan, [], some []⟩
      ⟨handedIn, [second], [⟨first, ticket, .waiting⟩], some []⟩ := by
    rw [split]
    exact .handIn rfl
  have begins : Pool.Step (.only fun sample => .ok sample.latex) (scan.map Formula.id) .work
      ⟨handedIn, [second], [] ++ ⟨first, ticket, .waiting⟩ :: [], some []⟩
      ⟨handedIn, [second], [] ++ ⟨first, ticket, .rendering⟩ :: [], some []⟩ :=
    .work (.begin rfl) fun _ => (by decide : 0 < (Pool.ofWorkers 2).workers)
  exact ⟨_, List.cons_ne_nil second [], ((Round.idle.own rfl submits).own rfl begins).meddle
    ⟨_, List.mem_singleton_self _, rfl⟩ ⟨rfl, rfl, rfl⟩ id⟩

/-- An analysis keeps all formulas of the document or none of them, whatever the typesetters answer
and however often they load a document or set the epoch of the pool. The formulas are all those of
the loaded text, in its order, with the verdicts that they get one after the other; in the pool, the
work may be done in any order and with any verdicts that may be given, it comes to an end, and the
analysis is the case in which it is done in turn. They are kept unless another epoch has begun, or
the epoch of the pool was set while it had them. Then nothing is done, and the document and its
registry are those of the loads, or the same as before. -/
theorem analyze_all_or_nothing {desk : Desk Outside}
    (accepting : desk.pooled = true → desk.pool.closed = false) :
    let scan := Scan.formulas desk.document.loaded
    (∀ renderer : Renderer (Desk Outside), (∀ sample, Within Meddled (renderer sample)) →
      let started := desk.handIn scan
      let validated := renderer.validateAll scan started
      (∃ deeds, Interlude deeds started validated.2) ∧
      ∀ deeds, Interlude deeds started validated.2 →
        AllOrNothing desk deeds validated.1 validated.2 (analyze renderer desk)) ∧
    (desk.pooled = true → 0 < desk.pool.workers →
      ∀ verdicts : Verdicts, desk.cache.AllowedBy verdicts →
      let slots := scan.map Formula.id
      let start : Pool.Session (Desk Outside) := ⟨desk, scan, [], some []⟩
      (∀ deeds session, Round verdicts slots start deeds session →
        ((∀ sample, ∃ rendering, verdicts sample (.ofRendering rendering)) →
          ∃ last, Round verdicts slots session [] last ∧ last.IsDone) ∧
        (session.IsDone → ∃ judged, List.Forall₂ (Formula.JudgedBy verdicts) scan judged ∧
          AllOrNothing desk deeds judged session.whole
            (conclude desk.document.epoch session.kept session.whole))) ∧
      ∀ renderer : Renderer (Desk Outside), (∀ sample, Within Meddled (renderer sample)) →
        renderer.Gives verdicts →
        ∃ deeds session, Round verdicts slots start deeds session ∧ session.IsDone ∧
          analyze renderer desk = conclude desk.document.epoch session.kept session.whole) := by
  intro scan
  refine ⟨fun renderer meddles => ⟨?_, fun deeds => allOrNothing_analyze accepting⟩,
    fun pooled manned verdicts allowed => ⟨fun deeds session round => ⟨fun served => ?_, ?_⟩,
      fun renderer => exists_round_analyze pooled (accepting pooled) manned⟩⟩
  · exact within_validateAll (fun _ _ => ⟨[], rfl, rfl, rfl⟩) meddles scan (desk.handIn scan)
  · obtain ⟨start, intact⟩ := sound_scan (accepting pooled) manned allowed
    exact round.exists_completion (Scan.nodup_map_id_formulas _) start intact served
  · exact round.allOrNothing pooled (accepting pooled) manned allowed

/-- Both formulas are kept when nothing is done, and none when an epoch is set or another document
is loaded, be it before all of them are handed in. -/
theorem analyze_all_or_nothing_busy :
    let scan := Scan.formulas twoOnDesk.document.loaded
    let start : Pool.Session (Desk Unit) := ⟨twoOnDesk, scan, [], some []⟩
    let verdicts : Verdicts := .only fun sample => .ok sample.latex
    let other : Deed := .load none "$c$".toList
    scan.length = 2 ∧ (analyze (busyWith []) twoOnDesk).1 = .ok scan ∧
    (analyze (busyWith [.setEpoch 99]) twoOnDesk).1 = .ok [] ∧
    (analyze (busyWith [other]) twoOnDesk).1 = .ok [] ∧
    (analyze (busyWith [other]) twoOnDesk).2.document.loaded = "$c$".toList ∧
    (∃ deeds session, Round verdicts (scan.map Formula.id) start deeds session ∧
      session.IsDone ∧
      analyze (busyWith [other]) twoOnDesk = conclude 0 session.kept session.whole) ∧
    ∃ last, Round verdicts (scan.map Formula.id) start [other] last ∧
      last.IsDone ∧ conclude 0 last.kept last.whole = (.ok [], last.whole) ∧
      last.whole.document = (twoOnDesk.load none "$c$".toList).document := by
  intro scan start verdicts other
  have accepting : twoOnDesk.pooled = true → twoOnDesk.pool.closed = false := fun _ => rfl
  obtain ⟨inTurn, anyOrder⟩ := analyze_all_or_nothing accepting
  have meddles (deeds : List Deed) (sample : Sample) : Within Meddled (busyWith deeds sample) :=
    fun _ => ⟨deeds, rfl, rfl, rfl⟩
  have still (sample : Sample) : Within (Kept Pool) (busyWith [] sample) := fun _ => rfl
  have idle : Kept Pool (twoOnDesk.handIn scan) _ :=
    within_validateAll overlooks_keptPool still scan (twoOnDesk.handIn scan)
  have calm := (inTurn (busyWith []) (meddles [])).2 [] ⟨by decide +kernel, by decide +kernel, idle⟩
  obtain ⟨⟨set, interlude⟩, restless⟩ := inTurn (busyWith [.setEpoch 99]) (meddles _)
  have changed : set ≠ [] := by
    rintro rfl
    have same := congrArg Pool.epoch interlude.pool
    revert same
    decide +kernel
  obtain ⟨⟨loads, replaced⟩, reloading⟩ := inTurn (busyWith [other]) (meddles _)
  have reloaded := (reloading loads replaced).dropped_iff.mpr (.inl (by decide +kernel))
  have empty : twoOnDesk.cache.AllowedBy verdicts := fun _ member => by cases member
  obtain ⟨ends, covered⟩ := anyOrder rfl (by decide) verdicts empty
  refine ⟨by decide +kernel, ?_, ?_, ?_, ?_, ?_, ?_⟩
  · rw [calm.kept_iff.mpr (by unfold Superseded; decide +kernel)]
    exact congrArg Except.ok (by decide +kernel)
  · rw [(restless set interlude).dropped_iff.mpr (.inr ⟨rfl, by decide +kernel, changed⟩)]
  · rw [reloaded]
  · rw [reloaded]
    decide +kernel
  · exact covered (busyWith [other]) (meddles _) ⟨fun _ _ => rfl, fun _ _ => id⟩
  · obtain ⟨session, -, round⟩ := exists_round_loading
    obtain ⟨last, completion, done⟩ := (ends _ session round).1 fun _ => ⟨_, rfl⟩
    have round := round.trans completion
    obtain ⟨judged, -, -, leftBy, -, dropped_iff, -⟩ := (ends _ last round).2 done
    refine ⟨last, round, done, dropped_iff.mpr (.inl ?_), leftBy.document⟩
    rw [leftBy.document]
    decide

end Desk

end FormulaRepair
