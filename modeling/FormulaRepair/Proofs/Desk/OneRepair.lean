import FormulaRepair.Proofs.Desk.Operations
import Mathlib.Data.List.Nodup

/-! # One repair of a formula at a time

Repairs may be called from inside one another or side by side. Each call goes through its stages in
small steps, between which the steps of other calls fall: it looks whether its formula is still on
the desk, marks the formula or is refused, asks the provider, and removes the mark. Looking for the
mark and setting it is one step. The marks on the desk are at every moment those of the calls
between their marking and their removal, each of them of a formula of its own. What a provider and a
typesetter may do with the desk are runs of such calls, and with them so is a repair.
-/

namespace FormulaRepair.Repairs

variable {Outside problem : Type}

/-- How far the call of a repair has come. -/
inductive Stage (problem : Type)
  | entered
  /-- The epoch was that of the formula. -/
  | timely
  /-- The registry had the formula as well. -/
  | admitted
  | marked
  /-- The provider has been asked and has not replied. -/
  | asking
  | replied
  /-- The result is there, and the mark still as well. -/
  | settled (result : Except (RepairProblem problem) (Option Fix))
  | ended (result : Except (RepairProblem problem) (Option Fix))
deriving DecidableEq

/-- A call of a repair. -/
structure Call (problem : Type) where
  formula : Formula
  version : Int
  stage : Stage problem
deriving DecidableEq

/-- The id that a call has marked, from its marking to the removal. -/
def Call.mark? (call : Call problem) : Option Text :=
  match call.stage with
  | .marked | .asking | .replied | .settled _ => some call.formula.id
  | .entered | .timely | .admitted | .ended _ => none

private theorem Call.mark?_of_asking {call : Call problem} (asking : call.stage = .asking) :
    call.mark? = some call.formula.id := by rw [mark?, asking]

/-- A step of one call: the stage and the desk that it finds, and those that it leaves behind. A
call may settle with any result as soon as it has marked its formula. -/
inductive Advance (formula : Formula) (version : Int) :
    Stage problem → Desk Outside → Stage problem → Desk Outside → Prop
  | outdated {desk} : version ≠ desk.document.epoch →
      Advance formula version .entered desk (.ended (.ok none)) desk
  | timely {desk} : version = desk.document.epoch →
      Advance formula version .entered desk .timely desk
  | unknown {desk} : desk.knows formula = false →
      Advance formula version .timely desk (.ended (.ok none)) desk
  | pass {desk} : desk.knows formula = true →
      Advance formula version .timely desk .admitted desk
  | refuse {desk} : desk.isInFlight formula.id = true →
      Advance formula version .admitted desk (.ended (.error (.running formula.id))) desk
  | mark {desk} : desk.isInFlight formula.id = false →
      Advance formula version .admitted desk .marked (desk.mark formula.id)
  | ask {desk} : Advance formula version .marked desk .asking desk
  | hear {desk} : Advance formula version .asking desk .replied desk
  | settle {stage desk} (result : Except (RepairProblem problem) (Option Fix)) :
      stage ∈ [.marked, .asking, .replied] →
      Advance formula version stage desk (.settled result) desk
  | unmark {desk} (result : Except (RepairProblem problem) (Option Fix)) :
      Advance formula version (.settled result) desk (.ended result) (desk.unmark formula.id)

/-- A desk and the calls of repairs on it, in the order in which they came. -/
structure Scene (Outside problem : Type) where
  desk : Desk Outside
  calls : List (Call problem)

/-- Another repair is called, or one of the calls advances, or something happens on the desk that is
not the business of repairs. -/
inductive Step : Scene Outside problem → Scene Outside problem → Prop
  | enter {desk calls} (formula : Formula) (epoch : Option Int) :
      Step ⟨desk, calls⟩
        ⟨desk, calls ++ [⟨formula, epoch.getD desk.document.epoch, .entered⟩]⟩
  | advance {before after formula version stage desk reached left} :
      Advance formula version stage desk reached left →
      Step ⟨desk, before ++ ⟨formula, version, stage⟩ :: after⟩
        ⟨left, before ++ ⟨formula, version, reached⟩ :: after⟩
  | elsewhere {desk left calls} : left.inFlight = desk.inFlight → Step ⟨desk, calls⟩ ⟨left, calls⟩

/-- One step after the other. -/
inductive Run : Scene Outside problem → Scene Outside problem → Prop
  | idle {scene} : Run scene scene
  | snoc {first between last} : Run first between → Step between last → Run first last

theorem Run.single {first last : Scene Outside problem} (step : Step first last) : Run first last :=
  .snoc .idle step

theorem Run.trans {first between last : Scene Outside problem} (earlier : Run first between)
    (later : Run between last) : Run first last := by
  induction later with
  | idle => exact earlier
  | snoc _ step ih => exact .snoc ih step

/-- The ids that calls have marked. -/
def marks (calls : List (Call problem)) : List Text := calls.filterMap Call.mark?

theorem marks_append (calls more : List (Call problem)) :
    marks (calls ++ more) = marks calls ++ marks more := List.filterMap_append

private theorem marks_middle (before : List (Call problem)) (call : Call problem)
    (after : List (Call problem)) :
    marks (before ++ call :: after) = marks before ++ (call.mark?.toList ++ marks after) := by
  rw [marks_append]
  cases marked : call.mark? <;> simp [marks, marked]

/-- Each mark on the desk belongs to one call, and each call that has marked its formula has a mark
of its own there. -/
structure Scene.Sound (scene : Scene Outside problem) : Prop where
  nodup : (marks scene.calls).Nodup
  mem_inFlight : ∀ id, id ∈ scene.desk.inFlight ↔ id ∈ marks scene.calls

theorem Scene.sound_of_idle {desk : Desk Outside} (idle : desk.inFlight = []) :
    Scene.Sound (⟨desk, []⟩ : Scene Outside problem) := ⟨List.nodup_nil, by simp [idle, marks]⟩

theorem Scene.Sound.inFlight_eq_nil {scene : Scene Outside problem} (sound : scene.Sound)
    (ended : ∀ call ∈ scene.calls, ∃ result, call.stage = .ended result) :
    scene.desk.inFlight = [] := by
  refine List.eq_nil_iff_forall_not_mem.mpr fun id member => ?_
  obtain ⟨call, listed, marked⟩ := List.mem_filterMap.mp ((sound.mem_inFlight id).mp member)
  obtain ⟨result, stage⟩ := ended call listed
  rw [Call.mark?, stage] at marked
  cases marked

/-- What a step of a call does to the marks: nothing, or it sets the one that was missing, or it
removes its own. -/
theorem Advance.marks {formula : Formula} {version : Int} {stage reached : Stage problem}
    {desk left : Desk Outside} (advance : Advance formula version stage desk reached left) :
    (Call.mark? ⟨formula, version, reached⟩ = Call.mark? ⟨formula, version, stage⟩ ∧
      left.inFlight = desk.inFlight) ∨
    (Call.mark? ⟨formula, version, stage⟩ = none ∧
      Call.mark? ⟨formula, version, reached⟩ = some formula.id ∧
      formula.id ∉ desk.inFlight ∧ left.inFlight = formula.id :: desk.inFlight) ∨
    (Call.mark? ⟨formula, version, stage⟩ = some formula.id ∧
      Call.mark? ⟨formula, version, reached⟩ = none ∧
      left.inFlight = desk.inFlight.filter (· != formula.id)) := by
  cases advance with
  | outdated | timely | unknown | pass | refuse | ask | hear => exact .inl ⟨rfl, rfl⟩
  | mark free => exact .inr (.inl ⟨rfl, rfl, by simpa [Desk.isInFlight] using free, rfl⟩)
  | settle result early =>
    simp only [List.mem_cons, List.not_mem_nil, or_false] at early
    obtain rfl | rfl | rfl := early <;> exact .inl ⟨rfl, rfl⟩
  | unmark result => exact .inr (.inr ⟨rfl, rfl, rfl⟩)

theorem Step.sound {scene next : Scene Outside problem} (step : Step scene next)
    (sound : scene.Sound) : next.Sound := by
  obtain ⟨nodup, same⟩ := sound
  cases step with
  | @enter desk calls formula epoch =>
    have unmarked : marks (calls ++ [⟨formula, epoch.getD desk.document.epoch, .entered⟩]) =
        marks calls := (marks_append ..).trans (List.append_nil _)
    exact ⟨by rw [unmarked]; exact nodup, fun id => by rw [unmarked]; exact same id⟩
  | elsewhere kept => exact ⟨nodup, fun id => by rw [kept]; exact same id⟩
  | advance advance =>
    dsimp only at nodup same
    rw [marks_middle] at nodup
    simp only [marks_middle] at same
    rcases advance.marks with ⟨stays, kept⟩ | ⟨missing, set, free, added⟩ | ⟨set, removed, left⟩
    · refine ⟨?_, fun id => ?_⟩ <;> dsimp only <;> rw [marks_middle, stays]
      · exact nodup
      · rw [kept]
        exact same id
    · rw [missing] at nodup same
      refine ⟨?_, fun id => ?_⟩ <;> dsimp only <;> rw [marks_middle, set]
      · refine List.nodup_middle.mpr (List.nodup_cons.mpr ⟨mt (same _).mpr free, nodup⟩)
      · rw [added, List.mem_cons, same id]
        simp only [List.mem_append, Option.toList_some, Option.toList_none, List.mem_cons,
          List.not_mem_nil, false_or, or_false]
        tauto
    · rw [set] at nodup same
      obtain ⟨alone, nodup⟩ := List.nodup_cons.mp (List.nodup_middle.mp nodup)
      refine ⟨?_, fun id => ?_⟩ <;> dsimp only <;> rw [marks_middle, removed]
      · exact nodup
      · rw [left, List.mem_filter, same id]
        simp only [List.mem_append, Option.toList_some, Option.toList_none, List.mem_cons,
          List.not_mem_nil, false_or, or_false, bne_iff_ne] at alone ⊢
        constructor
        · rintro ⟨member, other⟩
          tauto
        · intro member
          refine ⟨by tauto, ?_⟩
          rintro rfl
          exact alone member

theorem Run.sound {first last : Scene Outside problem} (run : Run first last)
    (sound : first.Sound) : last.Sound := by
  induction run with
  | idle => exact sound
  | snoc _ step ih => exact step.sound ih

/-- A step of a call that has marked its formula keeps the mark, or else it ends the call and takes
away this mark and no other. -/
theorem Advance.keeps_or_removes {formula : Formula} {version : Int} {stage reached : Stage problem}
    {desk left : Desk Outside} (advance : Advance formula version stage desk reached left)
    {id : Text} (marked : Call.mark? ⟨formula, version, stage⟩ = some id) :
    (Call.mark? ⟨formula, version, reached⟩ = some id ∧ left = desk) ∨
    ((∃ result, stage = .settled result ∧ reached = .ended result) ∧
      ∀ other, left.isInFlight other = true ↔ desk.isInFlight other = true ∧ other ≠ id) := by
  cases advance with
  | outdated | timely | unknown | pass | refuse | mark => cases marked
  | ask | hear => exact .inl ⟨marked, rfl⟩
  | settle result early =>
    simp only [List.mem_cons, List.not_mem_nil, or_false] at early
    obtain rfl | rfl | rfl := early <;> exact .inl ⟨marked, rfl⟩
  | unmark result =>
    cases marked
    exact .inr ⟨⟨result, rfl, rfl⟩, fun other => by simp [Desk.isInFlight, Desk.unmark]⟩

/-- A call that comes upon a mark is refused and changes nothing. -/
theorem Advance.of_inFlight {formula : Formula} {version : Int} {reached : Stage problem}
    {desk left : Desk Outside} (advance : Advance formula version .admitted desk reached left)
    (running : desk.isInFlight formula.id = true) :
    reached = .ended (.error (.running formula.id)) ∧ left = desk := by
  cases advance with
  | refuse => exact ⟨rfl, rfl⟩
  | mark free => simp [running] at free
  | settle result early => simp at early

/-- What may happen on a desk while a call waits for it: repairs are called and run to their end,
and anything that is not the business of repairs. -/
def Busy (problem : Type) (before after : Desk Outside) : Prop :=
  ∀ calls : List (Call problem), ∃ more,
    (∀ call ∈ more, ∃ result, call.stage = .ended result) ∧
    Run ⟨before, calls⟩ ⟨after, calls ++ more⟩

theorem busy_of_inFlight {before after : Desk Outside} (kept : after.inFlight = before.inFlight) :
    Busy problem before after := fun calls =>
  ⟨[], by simp, by rw [List.append_nil]; exact .single (.elsewhere kept)⟩

instance : IsPreorder (Desk Outside) (Busy problem) where
  refl _ := busy_of_inFlight rfl
  trans _ _ _ earlier later := fun calls => by
    obtain ⟨more, ended, run⟩ := earlier calls
    obtain ⟨others, endedOthers, rest⟩ := later (calls ++ more)
    refine ⟨more ++ others, List.forall_mem_append.mpr ⟨ended, endedOthers⟩, ?_⟩
    rw [← List.append_assoc]
    exact run.trans rest

/-- From a desk without marks, no mark is left. -/
theorem Busy.inFlight_eq_nil {before after : Desk Outside} (busy : Busy problem before after)
    (idle : before.inFlight = []) : after.inFlight = [] := by
  obtain ⟨more, ended, run⟩ := busy []
  exact (run.sound (Scene.sound_of_idle idle)).inFlight_eq_nil ended

section Repair

variable {repairer : Repairer Outside problem} {formula : Formula} {version : Int}
  {desk : Desk Outside}

private theorem isFresh_eq_true_iff : desk.isFresh formula version = true ↔
    version = desk.document.epoch ∧ desk.knows formula = true := by
  simp [Desk.isFresh]

/-- A call of a formula that is fresh passes both looks at the desk. -/
theorem run_admitted (fresh : desk.isFresh formula version = true) (calls : List (Call problem)) :
    Run ⟨desk, calls ++ [⟨formula, version, .entered⟩]⟩
      ⟨desk, calls ++ [⟨formula, version, .admitted⟩]⟩ := by
  obtain ⟨timely, known⟩ := isFresh_eq_true_iff.mp fresh
  exact .snoc (.single (.advance (.timely timely))) (.advance (.pass known))

/-- A call of a formula that is not fresh ends at one of them. -/
theorem run_outdated (old : desk.isFresh formula version = false) (calls : List (Call problem)) :
    Run ⟨desk, calls ++ [⟨formula, version, .entered⟩]⟩
      ⟨desk, calls ++ [⟨formula, version, .ended (.ok none)⟩]⟩ := by
  by_cases timely : version = desk.document.epoch
  · have unknown : desk.knows formula = false := by
      simpa [Desk.isFresh, timely] using old
    exact .snoc (.single (.advance (.timely timely))) (.advance (.unknown unknown))
  · exact .single (.advance (.outdated timely))

/-- A call that is admitted and finds no mark asks the provider, inside whose reply other calls come
up. -/
theorem run_asked (provides : ∀ request, Within (Busy problem) (repairer.provider.repair request))
    (fresh : desk.isFresh formula version = true) (free : desk.isInFlight formula.id = false)
    (calls : List (Call problem)) :
    ∃ more, (∀ call ∈ more, ∃ result, call.stage = .ended result) ∧
      Run ⟨desk, calls ++ [⟨formula, version, .entered⟩]⟩
        ⟨(repairer.answer formula desk).2, calls ++ ⟨formula, version, .asking⟩ :: more⟩ := by
  obtain ⟨more, ended, run⟩ :=
    provides (.about desk.document.loaded formula repairer.contextSize) (desk.mark formula.id)
      (calls ++ [⟨formula, version, .asking⟩])
  rw [List.append_assoc, List.singleton_append] at run
  refine ⟨more, ended, .trans ?_ run⟩
  exact .snoc (.snoc (run_admitted fresh calls) (.advance (.mark free))) (.advance .ask)

/-- A repair is the run of one call and of those that come up inside it. -/
theorem run_repair (provides : ∀ request, Within (Busy problem) (repairer.provider.repair request))
    (renders : ∀ sample, Within (Busy problem) (repairer.renderer sample)) (formula : Formula)
    (epoch : Option Int) (desk : Desk Outside) (calls : List (Call problem)) :
    ∃ more, (∀ call ∈ more, ∃ result, call.stage = .ended result) ∧
      Run ⟨desk, calls⟩ ⟨(repairer.repair formula epoch desk).2,
        calls ++ ⟨formula, epoch.getD desk.document.epoch,
          .ended (repairer.repair formula epoch desk).1⟩ :: more⟩ := by
  have entered : Run ⟨desk, calls⟩
      ⟨desk, calls ++ [⟨formula, epoch.getD desk.document.epoch, .entered⟩]⟩ :=
    .single (.enter formula epoch)
  have ends := repairer.ends_repair formula epoch desk
  generalize (repairer.repair formula epoch desk).1 = result at ends ⊢
  generalize (repairer.repair formula epoch desk).2 = left at ends ⊢
  generalize epoch.getD desk.document.epoch = version at ends entered ⊢
  cases ends with
  | outdated old => exact ⟨[], by simp, entered.trans (run_outdated old calls)⟩
  | running fresh running =>
    have refused := (run_admitted fresh calls).snoc (.advance (.refuse running))
    exact ⟨[], by simp, entered.trans refused⟩
  | failed fresh free answered =>
    obtain ⟨more, ended, asked⟩ := run_asked provides fresh free calls
    refine ⟨more, ended, entered.trans ?_⟩
    exact .snoc (.snoc asked (.advance (.settle _ (by simp)))) (.advance (.unmark _))
  | overtaken fresh free answered old =>
    obtain ⟨more, ended, asked⟩ := run_asked provides fresh free calls
    refine ⟨more, ended, entered.trans ?_⟩
    exact .snoc (.snoc (.snoc asked (.advance .hear)) (.advance (.settle _ (by simp))))
      (.advance (.unmark _))
  | @proposed reply fix proposed fresh free answered still proposes =>
    obtain ⟨more, ended, asked⟩ := run_asked provides fresh free calls
    obtain ⟨others, endedOthers, run⟩ :=
      within_propose (fun _ _ => busy_of_inFlight rfl) (fun _ _ => busy_of_inFlight rfl) renders
        formula.id reply.latex (repairer.provenance reply) (repairer.answer formula desk).2
        (calls ++ ⟨formula, version, .replied⟩ :: more)
    rw [proposes, List.append_assoc, List.cons_append] at run
    refine ⟨more ++ others, List.forall_mem_append.mpr ⟨ended, endedOthers⟩, entered.trans ?_⟩
    exact .snoc (.snoc (.trans (.snoc asked (.advance .hear)) run)
      (.advance (.settle _ (by simp)))) (.advance (.unmark _))

theorem within_repair
    (provides : ∀ request, Within (Busy problem) (repairer.provider.repair request))
    (renders : ∀ sample, Within (Busy problem) (repairer.renderer sample)) (formula : Formula)
    (epoch : Option Int) : Within (Busy problem) (repairer.repair formula epoch) := by
  intro desk calls
  obtain ⟨more, ended, run⟩ := run_repair provides renders formula epoch desk calls
  exact ⟨_, List.forall_mem_cons.mpr ⟨⟨_, rfl⟩, ended⟩, run⟩

end Repair

/-- At most one repair of each formula is running, and every one cleans up behind it. Whatever calls
of repairs there are from a desk without marks on, inside one another or side by side, and however
they end: the marks on the desk are those of the calls between marking and removal; no two calls
have marked one id, so no two have asked the provider about it; a call that comes upon a mark fails
at once and changes nothing; a call that has set a mark keeps it until it ends and then takes away
this mark only; and no mark is left when all calls have ended. Repairs and batches, with a provider
and a typesetter that may start others, are such runs. -/
theorem one_repair_of_each {start : Desk Outside} (idle : start.inFlight = []) :
    (∀ scene : Scene Outside problem, Run ⟨start, []⟩ scene →
      (∀ id, scene.desk.isInFlight id = true ↔ ∃ call ∈ scene.calls, call.mark? = some id) ∧
      (scene.calls.Pairwise fun call other =>
        ∀ id, call.mark? = some id → other.mark? ≠ some id) ∧
      (scene.calls.Pairwise fun call other =>
        call.stage = .asking → other.stage = .asking → call.formula.id ≠ other.formula.id) ∧
      (∀ call ∈ scene.calls, ∀ reached left,
        Advance call.formula call.version call.stage scene.desk reached left →
        (call.stage = .admitted → scene.desk.isInFlight call.formula.id = true →
          reached = .ended (.error (.running call.formula.id)) ∧ left = scene.desk) ∧
        ∀ id, call.mark? = some id →
          (({ call with stage := reached }).mark? = some id ∧ left = scene.desk) ∨
          ((∃ result, call.stage = .settled result ∧ reached = .ended result) ∧
            ∀ other, left.isInFlight other = true ↔
              scene.desk.isInFlight other = true ∧ other ≠ id)) ∧
      ((∀ call ∈ scene.calls, ∃ result, call.stage = .ended result) → scene.desk.inFlight = [])) ∧
    ∀ repairer : Repairer Outside problem,
      (∀ formula epoch desk, desk.isFresh formula (epoch.getD desk.document.epoch) = true →
        desk.isInFlight formula.id = true →
        repairer.repair formula epoch desk = (.error (.running formula.id), desk)) ∧
      ((∀ request, Within (Busy problem) (repairer.provider.repair request)) →
        (∀ sample, Within (Busy problem) (repairer.renderer sample)) →
        (∀ formula epoch desk calls, ∃ more,
          (∀ call ∈ more, ∃ result, call.stage = .ended result) ∧
          Run ⟨desk, calls⟩ ⟨(repairer.repair formula epoch desk).2,
            calls ++ ⟨formula, epoch.getD desk.document.epoch,
              .ended (repairer.repair formula epoch desk).1⟩ :: more⟩) ∧
        (∀ formulas, Within (Busy problem) (repairer.repairAll formulas)) ∧
        (∀ formula epoch, (repairer.repair formula epoch start).2.inFlight = []) ∧
        ∀ formulas, (repairer.repairAll formulas start).2.inFlight = []) := by
  refine ⟨fun scene run => ?_, fun repairer => ⟨fun formula epoch desk fresh running => ?_,
    fun provides renders => ?_⟩⟩
  · have sound := run.sound (Scene.sound_of_idle idle)
    have inFlight (id : Text) : scene.desk.isInFlight id = true ↔
        ∃ call ∈ scene.calls, call.mark? = some id := by
      rw [Desk.isInFlight, List.contains_iff_mem, sound.mem_inFlight, marks, List.mem_filterMap]
    have apart : scene.calls.Pairwise fun call other =>
        ∀ id, call.mark? = some id → other.mark? ≠ some id :=
      (List.pairwise_filterMap.mp sound.nodup).imp fun differ id marked other =>
        differ id marked id other rfl
    refine ⟨inFlight, apart, apart.imp fun differ asking other same => ?_,
      fun call _ reached left advance => ⟨fun admitted running => ?_, fun id marked =>
        advance.keeps_or_removes marked⟩, sound.inFlight_eq_nil⟩
    · exact differ _ (Call.mark?_of_asking asking) (same ▸ Call.mark?_of_asking other)
    · rw [admitted] at advance
      exact advance.of_inFlight running
  · rw [Repairer.repair_eq]
    simp [fresh, running]
  · have repairs := within_repair provides renders
    have batches := Repairer.within_repairAll repairs
    exact ⟨run_repair provides renders, batches,
      fun formula epoch => (repairs formula epoch start).inFlight_eq_nil idle,
      fun formulas => (batches formulas start).inFlight_eq_nil idle⟩

/-- A repairer whose provider always has a reply. -/
def ready : Repairer Unit Text where
  renderer sample := pure (.ok sample.latex)
  provider := { name := ['p'], repair := fun _ => pure (.ok ⟨['y'], ['m']⟩) }
  contextSize := 0

/-- A repairer whose provider has the whole document repaired by another one before it fails. -/
def delegating : Repairer Unit Text where
  renderer sample := pure (.ok sample.latex)
  provider :=
    { name := ['q']
      repair := fun _ => do
        let _ ← ready.repairAll (← get).document.formulas
        return .error "down".toList }
  contextSize := 0

/-- Inside the repair of one formula, the document is repaired: this formula is refused and keeps
its mark, and the other one gets a fix. -/
theorem one_repair_of_each_delegating :
    let formula (id : Char) : Formula :=
      { id := [id], raw := ['x'], rawWithDelimiters := "$x$".toList, delimiter := .inlineDollar,
        startOffset := 0, endOffset := 3, lineNumber := 1 }
    let start : Desk Unit :=
      { cache := default, pool := Pool.ofWorkers 4, pooled := false, outside := ()
        document := { formulas := [formula 'a', formula 'b'] }
        registry := { formulas := [formula 'a', formula 'b'] } }
    let repaired := delegating.repair (formula 'a') none start
    ready.repair (formula 'a') none (start.mark ['a']) =
        (.error (.running ['a']), start.mark ['a']) ∧
      repaired.1 = .error (.provider "down".toList) ∧ repaired.2.inFlight = [] ∧
      repaired.2.registry.contains ['a'] = false ∧ repaired.2.registry.contains ['b'] = true ∧
      ∃ more, Run ⟨start, []⟩ ⟨repaired.2, ⟨formula 'a', 0, .ended repaired.1⟩ :: more⟩ := by
  intro formula start repaired
  have idle : start.inFlight = [] := rfl
  obtain ⟨-, repairs⟩ := @one_repair_of_each _ Text _ idle
  obtain ⟨refused, replies⟩ := repairs ready
  obtain ⟨-, batches, -, -⟩ := replies (fun _ => within_pure _) (fun _ => within_pure _)
  have delegates (request : RepairRequest) :
      Within (Busy Text) (delegating.provider.repair request) :=
    within_bind within_get fun desk => within_bind (batches _) fun _ => within_pure _
  obtain ⟨runs, -, cleans, -⟩ := (repairs delegating).2 delegates fun _ => within_pure _
  obtain ⟨more, -, run⟩ := runs (formula 'a') none start []
  refine ⟨refused (formula 'a') none _ (by decide +kernel) (by decide +kernel), ?_,
    cleans (formula 'a') none, ?_, ?_, more, run⟩ <;> decide +kernel

end FormulaRepair.Repairs
