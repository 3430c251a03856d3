import FormulaRepair.Proofs.Pool.Schedules

/-! # The answers of the pool, whatever the order

A session in an open pool can always make another move until it is done, and it makes at most four
for each formula. What it ends with is what validating the formulas one after the other would have
answered, or nothing if the epoch was set while it had submitted formulas and not yet checked all
answers. Carrying out the tasks in the order in which they were handed in is one of these sessions;
this is shown for every relation that covers the moves of a session and the work of a renderer.
-/

namespace FormulaRepair.Pool

variable {state : Type} [Holds Cache state] [Holds Pool state]
  {verdicts : Verdicts} {slots : List Text}

section Progress

/-- The moves that a task needs at most: to begin, to finish and to be checked. -/
def Phase.remaining : Phase → Nat
  | waiting => 3
  | rendering => 2
  | answered _ => 1

/-- The moves that tasks need at most. -/
def movesFor : List Task → Nat
  | [] => 0
  | task :: tasks => task.phase.remaining + movesFor tasks

omit [Holds Cache state] [Holds Pool state] in
private theorem movesFor_append (tasks more : List Task) :
    movesFor (tasks ++ more) = movesFor tasks + movesFor more := by
  induction tasks with
  | nil => rw [List.nil_append, movesFor, Nat.zero_add]
  | cons task tasks ih => rw [List.cons_append, movesFor, movesFor, ih, Nat.add_assoc]

/-- The moves that a session can make at most. -/
def Session.remaining (session : Session state) : Nat :=
  4 * session.unsent.length + movesFor session.tasks

/-- A move of the session uses up one of them, and what happens around it none. -/
theorem Step.remaining_le {move : Move} {session next : Session state}
    (step : Step verdicts slots move session next) :
    next.remaining + (if move.isOwn then 1 else 0) ≤ session.remaining := by
  cases step with
  | handIn =>
    simp only [Session.remaining, movesFor_append, movesFor, List.length_cons, Phase.remaining,
      Move.isOwn, ↓reduceIte]
    omega
  | work work =>
    simp only [Session.remaining, movesFor_append, movesFor, Move.isOwn, ↓reduceIte]
    cases work <;> simp only [Phase.remaining] <;> omega
  | check =>
    simp only [Session.remaining, movesFor, Phase.remaining, Move.isOwn, ↓reduceIte]
    omega
  | around => exact Nat.le_refl _

theorem Run.remaining_le {moves : List Move} {session next : Session state}
    (run : Run verdicts slots moves session next) :
    next.remaining + moves.countP Move.isOwn ≤ session.remaining := by
  induction run with
  | idle => exact Nat.le_refl _
  | @snoc moves move _ _ _ _ step ih =>
    have last := step.remaining_le
    rw [List.countP_append, List.countP_singleton]
    omega

omit [Holds Cache state] in
theorem submit_of_open {whole : state} (accepting : (Holds.view whole : Pool).closed = false)
    (slot : Text) :
    (submit slot whole).1 = .ok ((Holds.view whole : Pool).issue slot).1 := by
  rw [submit_eq]
  simp [accepting]

omit [Holds Pool state] in
/-- A waiting task can be taken up, whether its verdict is in the cache or not. -/
theorem exists_work (verdicts : Verdicts) (sample : Sample) (whole : state) :
    ∃ reached left, Work verdicts sample .waiting whole reached left := by
  cases kept : (Holds.view whole : Cache).get? sample with
  | some verdict => exact ⟨_, _, .known kept⟩
  | none => exact ⟨_, _, .begin kept⟩

variable (served : ∀ sample, ∃ rendering, verdicts sample (.ofRendering rendering))

include served

omit [Holds Pool state] in
private theorem exists_finish (sample : Sample) (whole : state) :
    ∃ reached left, Work verdicts sample .rendering whole reached left := by
  obtain ⟨rendering, given⟩ := served sample
  exact ⟨_, _, .finish whole given⟩

/-- As long as a session is not done, it can make a move: hand in the next formula, or finish a
rendering; if there is none, all workers are free, and the first task can begin or be checked. -/
theorem Session.Sound.exists_step {formulas : List Formula} {moves : List Move}
    {session : Session state} (sound : session.Sound verdicts formulas moves)
    (unfinished : ¬ session.IsDone) :
    ∃ move next, move.isOwn = true ∧
      Step verdicts (formulas.map Formula.id) move session next := by
  obtain ⟨whole, unsent, tasks, kept⟩ := session
  have manned : 0 < (Holds.view whole : Pool).workers := sound.manned
  match unsent, tasks with
  | formula :: unsent, tasks =>
    exact ⟨.handIn, _, rfl, .handIn (submit_of_open sound.accepting formula.id)⟩
  | [], [] => exact absurd ⟨rfl, rfl⟩ unfinished
  | [], ⟨formula, ticket, phase⟩ :: tasks =>
    by_cases busy : ∃ task ∈ tasks, task.phase = .rendering
    · obtain ⟨⟨other, given, phase⟩, member, rendering⟩ := busy
      obtain ⟨before, after, rfl⟩ := List.append_of_mem member
      obtain rfl : phase = .rendering := rendering
      obtain ⟨reached, left, finish⟩ := exists_finish served other.sample whole
      rw [← List.cons_append]
      exact ⟨.work, _, rfl, .work finish (by simp)⟩
    · have idle : ([] ++ tasks).countP Task.isRendering = 0 := by
        rw [List.nil_append, List.countP_eq_zero]
        intro task member rendering
        exact busy ⟨task, member, by simpa [Task.isRendering] using rendering⟩
      rw [← List.nil_append (_ :: tasks)]
      cases phase with
      | waiting =>
        obtain ⟨reached, left, work⟩ := exists_work verdicts formula.sample whole
        exact ⟨.work, _, rfl, .work work fun _ => idle ▸ manned⟩
      | rendering =>
        obtain ⟨reached, left, finish⟩ := exists_finish served formula.sample whole
        exact ⟨.work, _, rfl, .work finish (by simp)⟩
      | answered verdict => exact ⟨.check, _, rfl, .check⟩

section Completion

variable (pooled : Overlooks Pool (Kept Cache : state → state → Prop))
  (cached : Overlooks Cache (Kept Pool : state → state → Prop)) {formulas : List Formula}
  (distinct : (formulas.map Formula.id).Nodup)

include pooled cached distinct

/-- Every session can be brought to its end. By induction on the moves that it has left. -/
theorem Session.Sound.exists_completion {moves : List Move} {session : Session state}
    (sound : session.Sound verdicts formulas moves) :
    ∃ more last, Run verdicts (formulas.map Formula.id) more session last ∧ last.IsDone ∧
      ∀ move ∈ more, move.isOwn = true := by
  induction bound : session.remaining using Nat.strongRecOn generalizing moves session with
  | ind remaining ih =>
    by_cases done : session.IsDone
    · exact ⟨[], session, .idle, done, by simp⟩
    · obtain ⟨move, next, own, step⟩ := sound.exists_step served done
      have less := step.remaining_le
      rw [if_pos own] at less
      obtain ⟨more, last, run, finished, owns⟩ :=
        ih next.remaining (by omega) (sound.step pooled cached distinct step) rfl
      exact ⟨[move] ++ more, last, (Run.single step).trans run, finished,
        List.forall_mem_cons.mpr ⟨own, owns⟩⟩

end Completion

end Progress

section InTurn

/-- A task that waits for a worker. -/
def Task.waiting (handedIn : Formula × Ticket) : Task := ⟨handedIn.1, handedIn.2, .waiting⟩

/-- A task whose response has come in. -/
def Task.responded (response : Formula × Response) : Task :=
  ⟨response.1, response.2.ticket, .answered response.2.verdict⟩

theorem Step.workers_eq (cached : Overlooks Cache (Kept Pool : state → state → Prop)) {move : Move}
    {session next : Session state} (step : Step verdicts slots move session next) :
    (Holds.view next.whole : Pool).workers = (Holds.view session.whole : Pool).workers := by
  cases step with
  | handIn => rw [submit_eq, Holds.view_replace]; rfl
  | work work _ => exact congrArg Pool.workers (work.kept_pool cached)
  | check => rfl
  | around around => exact around.history.workers_eq

theorem Run.workers_eq (cached : Overlooks Cache (Kept Pool : state → state → Prop))
    {moves : List Move} {session next : Session state}
    (run : Run verdicts slots moves session next) :
    (Holds.view next.whole : Pool).workers = (Holds.view session.whole : Pool).workers := by
  induction run with
  | idle => rfl
  | snoc _ step ih => exact (step.workers_eq cached).trans ih

/-- The relation leads from a session to those that it reaches by moves of its own, and by what the
renderer does while a worker is rendering. -/
structure Covers (verdicts : Verdicts) (slots : List Text) (renderer : Renderer state)
    (reach : Session state → Session state → Prop) : Prop where
  refl : ∀ session, reach session session
  trans : ∀ {first between last}, reach first between → reach between last → reach first last
  own : ∀ {move session next}, move.isOwn = true → Step verdicts slots move session next →
    reach session next
  renders : ∀ sample whole {unsent tasks kept}, (∃ task ∈ tasks, task.isRendering = true) →
    reach ⟨whole, unsent, tasks, kept⟩ ⟨(renderer sample whole).2, unsent, tasks, kept⟩
  workers_eq : ∀ {session next}, reach session next →
    (Holds.view next.whole : Pool).workers = (Holds.view session.whole : Pool).workers

private theorem covers_run (cached : Overlooks Cache (Kept Pool : state → state → Prop))
    {renderer : Renderer state} (acts : ∀ sample whole, ∃ events,
      Around verdicts slots events whole (renderer sample whole).2) :
    Covers verdicts slots renderer fun session next =>
      ∃ moves, Run verdicts slots moves session next where
  refl _ := ⟨[], .idle⟩
  trans := fun ⟨_, earlier⟩ ⟨_, later⟩ => ⟨_, earlier.trans later⟩
  own _ step := ⟨_, .single step⟩
  renders sample whole _ _ _ _ := by
    obtain ⟨events, around⟩ := acts sample whole
    exact ⟨_, .single (.around around)⟩
  workers_eq := fun ⟨_, run⟩ => run.workers_eq cached

namespace Covers

variable {renderer : Renderer state} {reach : Session state → Session state → Prop}
  (covers : Covers verdicts slots renderer reach)

include covers

/-- Handing in formulas is covered. -/
theorem submitAll {formulas : List Formula} {whole : state}
    (accepting : (Holds.view whole : Pool).closed = false) (tasks : List Task)
    (kept : Option (List Formula)) :
    ∃ work, (Pool.submitAll formulas whole).1 = .ok work ∧
      reach ⟨whole, formulas, tasks, kept⟩
        ⟨(Pool.submitAll formulas whole).2, [], tasks ++ work.map Task.waiting, kept⟩ := by
  induction formulas generalizing whole tasks with
  | nil => exact ⟨[], rfl, by rw [List.map_nil, List.append_nil]; exact covers.refl _⟩
  | cons formula formulas ih =>
    have submitted := submit_of_open accepting formula.id
    have still : (Holds.view (submit formula.id whole).2 : Pool).closed = false := by
      rw [submit_eq, Holds.view_replace]
      exact accepting
    obtain ⟨work, handedIn, reached⟩ :=
      ih still (tasks ++ [⟨formula, ((Holds.view whole : Pool).issue formula.id).1, .waiting⟩])
    rw [List.append_assoc, List.singleton_append] at reached
    have after : Holds.replace ((Holds.view whole : Pool).issue formula.id).2 whole =
        (submit formula.id whole).2 := rfl
    simp only [submitAll_cons, accepting, Bool.false_eq_true, ↓reduceIte, after, handedIn]
    exact ⟨_, rfl, covers.trans (covers.own rfl (.handIn submitted)) reached⟩

variable (given : ∀ sample whole, verdicts sample (.ofRendering (renderer sample whole).1))

include given

/-- So is validating the sample of a task, if no worker is busy. -/
theorem validate {before after : List Task}
    (idle : (before ++ after).countP Task.isRendering = 0) {whole : state}
    (manned : 0 < (Holds.view whole : Pool).workers) (formula : Formula) (ticket : Ticket)
    (kept : Option (List Formula)) :
    reach ⟨whole, [], before ++ ⟨formula, ticket, .waiting⟩ :: after, kept⟩
      ⟨(renderer.validate formula.sample whole).2, [],
        before ++ ⟨formula, ticket, .answered (renderer.validate formula.sample whole).1⟩ :: after,
        kept⟩ := by
  have free : Phase.waiting = .waiting →
      (before ++ after).countP Task.isRendering < (Holds.view whole : Pool).workers :=
    fun _ => idle ▸ manned
  cases found : (Holds.view whole : Cache).get? formula.sample with
  | some verdict =>
    rw [Renderer.validate_of_kept renderer found]
    exact covers.own rfl (.work (.known found) free)
  | none =>
    rw [Renderer.validate_of_missing renderer found]
    refine covers.trans (covers.own rfl (.work (.begin found) free))
      (covers.trans (covers.renders formula.sample whole ?_) ?_)
    · exact ⟨⟨formula, ticket, .rendering⟩, by simp, rfl⟩
    · exact covers.own rfl (.work (.finish _ (given formula.sample whole)) (by simp))

/-- So is carrying out tasks in turn. -/
theorem respondAll (work : List (Formula × Ticket)) (responses : List (Formula × Response))
    {whole : state} (manned : 0 < (Holds.view whole : Pool).workers)
    (kept : Option (List Formula)) :
    reach ⟨whole, [], responses.map Task.responded ++ work.map Task.waiting, kept⟩
      ⟨(Pool.respondAll renderer work whole).2, [],
        (responses ++ (Pool.respondAll renderer work whole).1).map Task.responded, kept⟩ := by
  induction work generalizing whole responses with
  | nil =>
    have none : Pool.respondAll renderer [] whole = ([], whole) := rfl
    rw [none, List.map_nil, List.append_nil, List.append_nil]
    exact covers.refl _
  | cons task work ih =>
    have idle :
        (responses.map Task.responded ++ work.map Task.waiting).countP Task.isRendering = 0 := by
      simp [List.countP_eq_zero, Task.isRendering, Task.responded, Task.waiting]
    have validated := covers.validate given idle manned task.1 task.2 kept
    have manned' : 0 < (Holds.view (renderer.validate task.1.sample whole).2 : Pool).workers := by
      rw [covers.workers_eq validated]
      exact manned
    have reached := ih
      (responses ++ [(task.1, ⟨task.2, (renderer.validate task.1.sample whole).1⟩)]) manned'
    rw [List.map_append, List.append_assoc, List.append_assoc] at reached
    exact covers.trans validated reached

omit given in
/-- So is checking the responses in turn. -/
theorem collect? (whole : state) (responses : List (Formula × Response))
    (kept : Option (List Formula)) :
    reach ⟨whole, [], responses.map Task.responded, kept⟩
      ⟨whole, [], [], kept.bind fun checked =>
        ((Holds.view whole : Pool).collect? responses).map (checked ++ ·)⟩ := by
  induction responses generalizing kept with
  | nil =>
    have same : (kept.bind fun checked =>
        ((Holds.view whole : Pool).collect? []).map (checked ++ ·)) = kept := by
      cases kept <;> simp [Pool.collect?]
    rw [same]
    exact covers.refl _
  | cons response responses ih =>
    have same : (kept.bind fun checked =>
          ((Holds.view whole : Pool).collect? (response :: responses)).map (checked ++ ·)) =
        (keep kept response.1 ((Holds.view whole : Pool).verdict? response.2)).bind fun checked =>
          ((Holds.view whole : Pool).collect? responses).map (checked ++ ·) := by
      rw [Pool.collect?]
      cases kept <;> cases (Holds.view whole : Pool).verdict? response.2 <;>
        cases (Holds.view whole : Pool).collect? responses <;> simp [keep]
    rw [same]
    exact covers.trans (covers.own rfl .check)
      (ih (keep kept response.1 ((Holds.view whole : Pool).verdict? response.2)))

/-- Validating formulas in the pool takes the session to its end. -/
theorem validateFormulas {formulas : List Formula} {whole : state}
    (accepting : (Holds.view whole : Pool).closed = false)
    (manned : 0 < (Holds.view whole : Pool).workers) :
    ∃ session, reach ⟨whole, formulas, [], some []⟩ session ∧ session.IsDone ∧
      Pool.validateFormulas renderer formulas whole = (.ok session.kept, session.whole) := by
  obtain ⟨work, handedIn, submitted⟩ :=
    @submitAll _ _ _ _ _ _ _ covers formulas _ accepting [] (some [])
  have manned' : 0 < (Holds.view (Pool.submitAll formulas whole).2 : Pool).workers := by
    rw [covers.workers_eq submitted]
    exact manned
  have responded := covers.respondAll given work [] manned' (some [])
  have collected := covers.collect?
    (Pool.respondAll renderer work (Pool.submitAll formulas whole).2).2
    (Pool.respondAll renderer work (Pool.submitAll formulas whole).2).1 (some [])
  refine ⟨_, covers.trans (covers.trans submitted responded) collected, ⟨rfl, rfl⟩, ?_⟩
  simp only [Pool.validateFormulas, run_bind, handedIn, run_read, Option.bind_some,
    List.nil_append, Option.map_id']
  rfl

end Covers

end InTurn

/-- Validation in the pool agrees with validation one after the other. Whatever the number of
workers and the order in which they finish, and whatever happens around a session in an open pool
apart from submissions for its slots: it makes at most four moves for each formula and can always be
brought to its end. It ends with nothing exactly if the epoch was set between the first submission
and the last check, and otherwise with the formulas as they are when they are validated one after
the other: all of them, in their order, and with nothing but the verdicts changed. Carrying out the
tasks in turn, with whatever the renderer does, is such a session; without formulas it ends with
none, even if the pool is closed. -/
theorem pooled_agrees (pooled : Overlooks Pool (Kept Cache : state → state → Prop))
    (cached : Overlooks Cache (Kept Pool : state → state → Prop)) (wanted : Int)
    {outcome : Sample → Except Refusal Text} {formulas : List Formula}
    (distinct : (formulas.map Formula.id).Nodup) {start : state}
    (sized : (Holds.view start : Pool).workers = (ofWorkers wanted).workers)
    (accepting : (Holds.view start : Pool).closed = false)
    (truthful : (Holds.view start : Cache).Truthful outcome) :
    let slots := formulas.map Formula.id
    (∀ moves session, Run (.only outcome) slots moves ⟨start, formulas, [], some []⟩ session →
      moves.countP Move.isOwn ≤ 4 * formulas.length ∧
      (∃ more last, Run (.only outcome) slots more session last ∧ last.IsDone ∧
        ∀ move ∈ more, move.isOwn = true) ∧
      (session.IsDone →
        (session.kept = none ↔
          ∃ before events after, moves = before ++ .around events :: after ∧
            .handIn ∈ before ∧ .check ∈ after ∧ ∃ epoch, .setEpoch epoch ∈ events) ∧
        ∀ checked, session.kept = some checked →
          ∀ (renderer : Renderer state) (whole : state), renderer.Steady outcome →
            (Holds.view whole : Cache).Truthful outcome →
            checked = (renderer.validateAll formulas whole).1)) ∧
    ∀ renderer : Renderer state,
      ((∀ sample whole, (renderer sample whole).1 = outcome sample) →
        (∀ sample whole, ∃ events,
          Around (.only outcome) slots events whole (renderer sample whole).2) →
        ∃ moves session, Run (.only outcome) slots moves ⟨start, formulas, [], some []⟩ session ∧
          session.IsDone ∧
          validateFormulas renderer formulas start = (.ok session.kept, session.whole)) ∧
      ∀ whole,
        (renderer.validateAll formulas whole).1.map Formula.asFound =
          formulas.map Formula.asFound ∧
        validateFormulas renderer [] whole = (.ok (some []), whole) := by
  intro slots
  have manned : 0 < (Holds.view start : Pool).workers := by
    rw [sized]
    change 0 < (max 1 (min workerLimit wanted)).toNat
    omega
  refine ⟨fun moves session run => ?_, fun renderer => ⟨fun settled acts => ?_, fun whole => ?_⟩⟩
  · have allowed := Cache.allowedBy_only_iff.mpr truthful
    have sound : session.Sound (.only outcome) formulas moves :=
      (Session.sound_start accepting manned allowed).run pooled cached distinct run
    have served (sample : Sample) :
        ∃ rendering, Verdicts.only outcome sample (.ofRendering rendering) := ⟨_, rfl⟩
    refine ⟨?_, sound.exists_completion served pooled cached distinct, fun done => ⟨?_, ?_⟩⟩
    · have bound := run.remaining_le
      simp only [Session.remaining, movesFor] at bound
      omega
    · have intact := sound.intact
      simp only [Session.IsIntact, done.2, List.not_mem_nil, false_implies, implies_true, and_true,
        ne_eq, not_true_eq_false] at intact
      rw [← Option.not_isSome_iff_eq_none, intact, Classical.not_not]
      simp only [Restarted, or_false]
    · intro checked kept renderer whole steady truthful
      obtain ⟨all, judged, split, verified, kept_eq⟩ := sound.listed
      rw [done.1, done.2, List.map_nil, List.nil_append, List.append_nil] at split
      rw [← split, forall₂_judgedBy_only_iff] at verified
      rw [kept_eq checked kept, verified, (steady.validateAll truthful formulas).1]
      rfl
  · have given (sample : Sample) (whole : state) :
        Verdicts.only outcome sample (.ofRendering (renderer sample whole).1) :=
      congrArg Verdict.ofRendering (settled sample whole)
    obtain ⟨session, ⟨moves, run⟩, done, answered⟩ :=
      (covers_run cached acts).validateFormulas given accepting manned
    exact ⟨moves, session, run, done, answered⟩
  · exact ⟨validateAll_asFound renderer formulas whole, rfl⟩

/-- The outcomes of a renderer that has no markup for one sample. -/
def fussy (sample : Sample) : Except Refusal Text :=
  if sample.latex = ['?'] then .error (.rejected "odd".toList) else .ok sample.latex

/-- A formula of one character. -/
def letter (id : Char) : Formula :=
  { id := [id], raw := [id], rawWithDelimiters := ['$', id, '$'], delimiter := .inlineDollar,
    startOffset := 0, endOffset := 3, lineNumber := 1 }

/-- A session for two formulas, on a desk with two workers. -/
def twoLetters : Session (Desk Unit) :=
  ⟨{ cache := default, pool := ofWorkers 2, pooled := true, outside := () },
    [letter 'a', letter '?'], [], some []⟩

/-- The moves up to the checks. The second task overtakes the first one, and in between something is
handed in for another slot. -/
def overtaking : List Move :=
  [.handIn, .around [.submit ⟨2, 0, "preview".toList⟩], .handIn, .work, .work, .work, .work]

private theorem run_overtaking :
    ∃ (left : Desk Unit) (first second : Task) (verdict other : Verdict),
      Run (.only fussy) [['a'], ['?']] overtaking twoLetters
        ⟨left, [], [{ first with phase := .answered verdict },
          { second with phase := .answered other }], some []⟩ := by
  let first (phase : Phase) : Task := ⟨letter 'a', ⟨1, 0, ['a']⟩, phase⟩
  let second (phase : Phase) : Task := ⟨letter '?', ⟨3, 0, ['?']⟩, phase⟩
  let opened := (submit ['a'] twoLetters.whole).2
  have previewed : Around (.only fussy) [['a'], ['?']] [.submit ⟨2, 0, "preview".toList⟩] opened
      (submit "preview".toList opened).2 := by
    refine ⟨History.submit "preview".toList opened, fun ticket member => ?_, by decide, id⟩
    obtain rfl := Event.submit.inj (List.mem_singleton.mp member)
    decide
  let submitted := (submit ['?'] (submit "preview".toList opened).2).2
  have handedIn : Run (.only fussy) [['a'], ['?']]
      [.handIn, .around [.submit ⟨2, 0, "preview".toList⟩], .handIn] twoLetters
      ⟨submitted, [], [first .waiting, second .waiting], some []⟩ := by
    refine .snoc (.snoc (.single (.handIn ?_)) (.around previewed)) (.handIn ?_) <;> rfl
  have beginSecond : Step (.only fussy) [['a'], ['?']] .work
      ⟨submitted, [], [first .waiting] ++ second .waiting :: [], some []⟩
      ⟨submitted, [], [first .waiting] ++ second .rendering :: [], some []⟩ :=
    .work (.begin rfl) fun _ => by decide
  have beginFirst : Step (.only fussy) [['a'], ['?']] .work
      ⟨submitted, [], [] ++ first .waiting :: [second .rendering], some []⟩
      ⟨submitted, [], [] ++ first .rendering :: [second .rendering], some []⟩ :=
    .work (.begin rfl) fun _ => by decide
  have finishSecond : Step (.only fussy) [['a'], ['?']] .work
      ⟨submitted, [], [first .rendering] ++ second .rendering :: [], some []⟩
      ⟨_, [], [first .rendering] ++ second (.answered _) :: [], some []⟩ :=
    .work (.finish submitted rfl) (by simp)
  have finishFirst (whole : Desk Unit) (verdict : Verdict) : Step (.only fussy) [['a'], ['?']] .work
      ⟨whole, [], [] ++ first .rendering :: [second (.answered verdict)], some []⟩
      ⟨_, [], [] ++ first (.answered _) :: [second (.answered verdict)], some []⟩ :=
    .work (.finish whole rfl) (by simp)
  exact ⟨_, first .waiting, second .waiting, _, _,
    (((handedIn.snoc beginSecond).snoc beginFirst).snoc finishSecond).snoc (finishFirst _ _)⟩

/-- The answers are kept in the order of the formulas. When the epoch is set between the two checks,
the answer that was kept already is given up again. -/
theorem pooled_agrees_overtaken :
    let renderer : Renderer (Desk Unit) := fun sample => pure (fussy sample)
    (∃ session,
      Run (.only fussy) [['a'], ['?']] (overtaking ++ [.check] ++ [.check]) twoLetters session ∧
      session.kept = some (renderer.validateAll twoLetters.unsent twoLetters.whole).1) ∧
    ∃ session, Run (.only fussy) [['a'], ['?']]
      (overtaking ++ [.check] ++ [.around [.setEpoch 0]] ++ [.check]) twoLetters session ∧
      session.kept = none := by
  intro renderer
  have empty : twoLetters.whole.cache.Truthful fussy := fun _ member => by cases member
  have agrees := (@pooled_agrees (Desk Unit) _ _ (fun _ desk => Eq.refl desk.cache)
    (fun _ desk => Eq.refl desk.pool) 2 fussy twoLetters.unsent (by decide) _ rfl rfl empty).1
  obtain ⟨left, first, second, verdict, other, run⟩ := run_overtaking
  constructor
  · have checked := (run.snoc .check).snoc .check
    obtain ⟨-, -, ends⟩ := agrees _ _ checked
    obtain ⟨stale, right⟩ := ends ⟨rfl, rfl⟩
    refine ⟨_, checked, ?_⟩
    generalize keep _ _ _ = kept at stale right
    cases kept with
    | none =>
      obtain ⟨before, events, after, split, -, -, epoch, set⟩ := stale.mp rfl
      have member : .around events ∈ overtaking ++ [.check] ++ [.check] := by
        rw [split]
        simp
      obtain rfl : events = [.submit ⟨2, 0, "preview".toList⟩] := by
        simpa [overtaking] using member
      cases List.mem_singleton.mp set
    | some checked =>
      have steady : renderer.Steady fussy := ⟨fun _ _ => rfl, fun _ _ => id⟩
      exact congrArg some (right checked rfl renderer _ steady empty)
  · have restarted : Around (.only fussy) [['a'], ['?']] [.setEpoch 0] left _ :=
      ⟨.setEpoch 0 left, by simp, by decide, id⟩
    have checked := ((run.snoc .check).snoc (.around restarted)).snoc .check
    refine ⟨_, checked, ?_⟩
    obtain ⟨-, -, ends⟩ := agrees _ _ checked
    exact (ends ⟨rfl, rfl⟩).1.mpr
      ⟨_, _, [.check], List.append_assoc .., by decide, by decide, 0, by decide⟩

end FormulaRepair.Pool
