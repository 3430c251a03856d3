import FormulaRepair.Proofs.Pool.Agreement

/-! # Validation in the pool, in whatever order the work is done

A validation of formulas in the pool hands in one task for each of them, and then takes the answers
in the order of the formulas. The workers of the pool begin and finish the tasks in any order and at
any time in between, with any verdicts that may be given on the samples, and everything else that
concerns the pool may happen around them, from inside a typesetter or not. Whether a session of this
kind keeps anything is decided by its moves alone: nothing, if the epoch was set between the first
submission and the last check, and else all of the formulas with the verdicts on them.
-/

namespace FormulaRepair.Pool

/-- How far a task has come. -/
inductive Phase
  | waiting
  | rendering
  | answered (verdict : Verdict)
deriving DecidableEq, Repr

/-- The validation of a formula that was handed in. -/
structure Task where
  formula : Formula
  ticket : Ticket
  phase : Phase := .waiting
deriving DecidableEq, Repr

/-- Is a worker busy with the task? -/
def Task.isRendering (task : Task) : Bool := task.phase == .rendering

/-- A validation of formulas in the pool: the formulas still to be handed in, the tasks that have
not been checked, and the formulas checked so far, until a response was old. -/
structure Session (state : Type) where
  whole : state
  unsent : List Formula
  tasks : List Task := []
  kept : Option (List Formula) := some []

/-- Nothing is left to hand in or to check. -/
def Session.IsDone {state : Type} (session : Session state) : Prop :=
  session.unsent = [] ∧ session.tasks = []

/-- One more formula is kept with its verdict, or nothing from now on. -/
def keep (kept : Option (List Formula)) (formula : Formula) (verdict? : Option Verdict) :
    Option (List Formula) :=
  match kept, verdict? with
  | some checked, some verdict => some (checked ++ [formula.withVerdict verdict])
  | _, _ => none

/-- The moves of a session and of those around it. -/
inductive Move
  | handIn
  | work
  | check
  | around (events : List Event)
deriving DecidableEq, Repr

/-- A move of the session or of a worker on one of its tasks. -/
def Move.isOwn : Move → Bool
  | handIn | work | check => true
  | around _ => false

section Machine

variable {state : Type} [Holds Cache state] [Holds Pool state]

/-- What happens around a session: the pool stays open, nothing is handed in for the slots of the
session, and no other verdict than may be given gets into the cache. -/
structure Around (verdicts : Verdicts) (slots : List Text) (events : List Event)
    (before after : state) : Prop where
  history : History events before after
  leaves : ∀ ticket, .submit ticket ∈ events → ticket.slot ∉ slots
  accepts : .shutDown ∉ events
  allowed : (Holds.view before : Cache).AllowedBy verdicts →
    (Holds.view after : Cache).AllowedBy verdicts

/-- What a worker does about a sample. It looks into the cache, and renders if there is no verdict;
the verdict goes into the cache when the rendering is over. -/
inductive Work (verdicts : Verdicts) (sample : Sample) :
    Phase → state → Phase → state → Prop
  | known {whole : state} {verdict : Verdict} :
      (Holds.view whole : Cache).get? sample = some verdict →
      Work verdicts sample .waiting whole (.answered verdict) whole
  | begin {whole : state} : (Holds.view whole : Cache).get? sample = none →
      Work verdicts sample .waiting whole .rendering whole
  | finish {rendering : Except Refusal Text} (whole : state) :
      verdicts sample (.ofRendering rendering) →
      Work verdicts sample .rendering whole (.answered (.ofRendering rendering))
        (Holds.replace ((Holds.view whole : Cache).put sample (.ofRendering rendering)) whole)

/-- A move of a session. All formulas are handed in before the first answer is checked; a task
begins when a worker is free. -/
inductive Step (verdicts : Verdicts) (slots : List Text) :
    Move → Session state → Session state → Prop
  | handIn {whole : state} {formula : Formula} {unsent : List Formula} {tasks : List Task}
      {kept : Option (List Formula)} {ticket : Ticket} :
      (Pool.submit formula.id whole).1 = .ok ticket →
      Step verdicts slots .handIn ⟨whole, formula :: unsent, tasks, kept⟩
        ⟨(Pool.submit formula.id whole).2, unsent, tasks ++ [⟨formula, ticket, .waiting⟩], kept⟩
  | work {whole left : state} {unsent : List Formula} {before after : List Task}
      {formula : Formula} {ticket : Ticket} {phase reached : Phase} {kept : Option (List Formula)} :
      Work verdicts formula.sample phase whole reached left →
      (phase = .waiting →
        (before ++ after).countP Task.isRendering < (Holds.view whole : Pool).workers) →
      Step verdicts slots .work ⟨whole, unsent, before ++ ⟨formula, ticket, phase⟩ :: after, kept⟩
        ⟨left, unsent, before ++ ⟨formula, ticket, reached⟩ :: after, kept⟩
  | check {whole : state} {formula : Formula} {ticket : Ticket} {verdict : Verdict}
      {tasks : List Task} {kept : Option (List Formula)} :
      Step verdicts slots .check ⟨whole, [], ⟨formula, ticket, .answered verdict⟩ :: tasks, kept⟩
        ⟨whole, [], tasks,
          keep kept formula ((Holds.view whole : Pool).verdict? ⟨ticket, verdict⟩)⟩
  | around {whole left : state} {unsent : List Formula} {tasks : List Task}
      {kept : Option (List Formula)} {events : List Event} :
      Around verdicts slots events whole left →
      Step verdicts slots (.around events) ⟨whole, unsent, tasks, kept⟩ ⟨left, unsent, tasks, kept⟩

/-- One move after the other. -/
inductive Run (verdicts : Verdicts) (slots : List Text) :
    List Move → Session state → Session state → Prop
  | idle {session : Session state} : Run verdicts slots [] session session
  | snoc {moves : List Move} {move : Move} {first between last : Session state} :
      Run verdicts slots moves first between → Step verdicts slots move between last →
      Run verdicts slots (moves ++ [move]) first last

variable {verdicts : Verdicts} {slots : List Text}

theorem Run.single {move : Move} {first last : Session state}
    (step : Step verdicts slots move first last) : Run verdicts slots [move] first last :=
  .snoc .idle step

theorem Run.trans {moves more : List Move} {first between last : Session state}
    (earlier : Run verdicts slots moves first between)
    (later : Run verdicts slots more between last) :
    Run verdicts slots (moves ++ more) first last := by
  induction later with
  | idle => rw [List.append_nil]; exact earlier
  | snoc _ step ih => rw [← List.append_assoc]; exact .snoc (ih earlier) step

end Machine

section Restarts

/-- The epoch was set behind the first submission and before a check, which may still be pending. -/
def Restarted (moves : List Move) (pending : Prop) : Prop :=
  ∃ before events after, moves = before ++ .around events :: after ∧ .handIn ∈ before ∧
    (.check ∈ after ∨ pending) ∧ ∃ epoch, .setEpoch epoch ∈ events

private theorem Restarted.imp {moves : List Move} {pending remaining : Prop}
    (restarted : Restarted moves pending)
    (still : .handIn ∈ moves → pending → remaining) : Restarted moves remaining := by
  obtain ⟨before, events, after, rfl, handedIn, later, set⟩ := restarted
  exact ⟨before, events, after, rfl, handedIn,
    later.imp_right (still (List.mem_append_left _ handedIn)), set⟩

theorem restarted_congr {moves : List Move} {pending remaining : Prop}
    (same : .handIn ∈ moves → (pending ↔ remaining)) :
    Restarted moves pending ↔ Restarted moves remaining :=
  ⟨fun restarted => restarted.imp fun handedIn => (same handedIn).mp,
    fun restarted => restarted.imp fun handedIn => (same handedIn).mpr⟩

private theorem not_restarted_nil (pending : Prop) : ¬ Restarted [] pending := by
  rintro ⟨before, events, after, split, -⟩
  simp at split

/-- Another move comes behind the setting of the epoch, or is the one that sets it. -/
theorem restarted_snoc {moves : List Move} {move : Move} {pending : Prop} :
    Restarted (moves ++ [move]) pending ↔
      Restarted moves (move = .check ∨ pending) ∨
      ∃ events, move = .around events ∧ .handIn ∈ moves ∧ pending ∧
        ∃ epoch, .setEpoch epoch ∈ events := by
  constructor
  · rintro ⟨before, events, after, split, handedIn, later, set⟩
    rcases List.eq_nil_or_concat after with rfl | ⟨after, last, rfl⟩
    · obtain ⟨rfl, same⟩ := List.append_inj' split rfl
      have same : move = .around events := by simpa using same
      exact .inr ⟨events, same, handedIn, by simpa using later, set⟩
    · rw [List.concat_eq_append] at split later
      rw [← List.cons_append, ← List.append_assoc] at split
      obtain ⟨rfl, same⟩ := List.append_inj' split rfl
      have same : move = last := by simpa using same
      refine .inl ⟨before, events, after, rfl, handedIn, ?_, set⟩
      simp only [List.mem_append, List.mem_singleton] at later
      rw [same, eq_comm, ← or_assoc]
      exact later
  · rintro (⟨before, events, after, rfl, handedIn, later, set⟩ | ⟨events, rfl, handedIn, here, set⟩)
    · refine ⟨before, events, after ++ [move], by simp, handedIn, ?_, set⟩
      rw [List.mem_append, List.mem_singleton, or_assoc, eq_comm]
      exact later
    · exact ⟨moves, events, [], rfl, handedIn, .inr here, set⟩

/-- A move of the session itself does not set the epoch. -/
theorem restarted_snoc_of_own {moves : List Move} {move : Move} {pending : Prop}
    (own : move.isOwn = true) :
    Restarted (moves ++ [move]) pending ↔ Restarted moves (move = .check ∨ pending) := by
  rw [restarted_snoc, or_iff_left]
  rintro ⟨events, rfl, -⟩
  cases own

end Restarts

private theorem isSome_keep {kept : Option (List Formula)} {formula : Formula}
    {verdict? : Option Verdict} :
    (keep kept formula verdict?).isSome = true ↔ kept.isSome = true ∧ verdict?.isSome = true := by
  cases kept <;> cases verdict? <;> simp [keep]

private theorem isSome_verdict? {pool : Pool} {response : Response} :
    (pool.verdict? response).isSome = pool.isCurrent response.ticket := by
  cases current : pool.isCurrent response.ticket <;> simp [verdict?, current]

namespace History

variable {state : Type} [Holds Pool state] {events : List Event} {start final : state}

theorem workers_eq (history : History events start final) :
    (Holds.view final : Pool).workers = (Holds.view start : Pool).workers := by
  induction history with
  | idle same => rw [same]
  | submit slot whole => rw [submit_eq, Holds.view_replace]; rfl
  | setEpoch epoch whole => rw [Holds.update, Holds.view_replace]; rfl
  | shutDown whole => rw [Holds.update, Holds.view_replace]; rfl
  | finish response whole => rfl
  | trans _ _ first second => rw [second, first]

/-- A pool is closed by nothing else than being shut down. -/
theorem closed_eq (history : History events start final) (accepts : .shutDown ∉ events) :
    (Holds.view final : Pool).closed = (Holds.view start : Pool).closed := by
  induction history with
  | idle same => rw [same]
  | submit slot whole => rw [submit_eq, Holds.view_replace]; rfl
  | setEpoch epoch whole => rw [Holds.update, Holds.view_replace]; rfl
  | shutDown whole => exact absurd (List.mem_singleton_self _) accepts
  | finish response whole => rfl
  | trans _ _ first second =>
    rw [List.mem_append, not_or] at accepts
    rw [second accepts.2, first accepts.1]

end History

section Invariant

variable {state : Type} [Holds Cache state] [Holds Pool state] {verdicts : Verdicts}

/-- Around a session, its tickets become old when the epoch is set, and in no other way. -/
theorem Around.isCurrent_iff {slots : List Text} {events : List Event} {before after : state}
    (around : Around verdicts slots events before after) {ticket : Ticket}
    (given : ticket.number ≤ (Holds.view before : Pool).issued) (own : ticket.slot ∈ slots) :
    (Holds.view after : Pool).isCurrent ticket = true ↔
      (Holds.view before : Pool).isCurrent ticket = true ∧ ∀ epoch, .setEpoch epoch ∉ events := by
  rw [around.history.isCurrent_iff given]
  refine and_congr_right fun _ => ⟨fun unharmed epoch set => unharmed _ set trivial, ?_⟩
  intro unset event member
  cases event with
  | submit other => exact fun same => around.leaves other member (same ▸ own)
  | setEpoch epoch => exact absurd member (unset epoch)
  | shutDown | finish response => exact id

omit [Holds Pool state] in
/-- A worker puts no other verdict into the cache than may be given, and answers with no other. -/
theorem Work.allowed {sample : Sample} {phase reached : Phase} {whole left : state}
    (work : Work verdicts sample phase whole reached left)
    (allowed : (Holds.view whole : Cache).AllowedBy verdicts) :
    (Holds.view left : Cache).AllowedBy verdicts ∧
      ∀ verdict, reached = .answered verdict → verdicts sample verdict := by
  cases work with
  | known kept =>
    refine ⟨allowed, fun verdict same => ?_⟩
    rw [← Phase.answered.inj same]
    exact allowed.get? kept
  | begin => exact ⟨allowed, fun verdict same => by cases same⟩
  | finish _ given =>
    rw [Holds.view_replace]
    refine ⟨allowed.put given, fun verdict same => ?_⟩
    rw [← Phase.answered.inj same]
    exact given

theorem Work.kept_pool (cached : Overlooks Cache (Kept Pool : state → state → Prop))
    {sample : Sample} {phase reached : Phase} {whole left : state}
    (work : Work verdicts sample phase whole reached left) : Kept Pool whole left := by
  cases work with
  | known | begin => rfl
  | finish => exact cached _ _

/-- Something is kept, and all tasks are current. -/
def Session.IsIntact (session : Session state) : Prop :=
  session.kept.isSome = true ∧
    ∀ task ∈ session.tasks, (Holds.view session.whole : Pool).isCurrent task.ticket = true

omit [Holds Cache state] in
private theorem isIntact_iff_of_own {moves : List Move} {move : Move} {session next : Session state}
    (own : move.isOwn = true) (intact : session.IsIntact ↔ ¬ Restarted moves (session.tasks ≠ []))
    (same : next.IsIntact ↔ session.IsIntact)
    (still : .handIn ∈ moves → (session.tasks ≠ [] ↔ move = .check ∨ next.tasks ≠ [])) :
    next.IsIntact ↔ ¬ Restarted (moves ++ [move]) (next.tasks ≠ []) := by
  rw [same, intact, restarted_snoc_of_own own]
  exact not_congr (restarted_congr still)

/-- What holds of a session for formulas after some moves. Nothing is checked while formulas are
still handed in, so from the first submission on a task is left that a restart makes old; and with
every check pending or made behind it, the restart has not been missed. -/
structure Session.Sound (verdicts : Verdicts) (formulas : List Formula) (moves : List Move)
    (session : Session state) : Prop where
  accepting : (Holds.view session.whole : Pool).closed = false
  manned : 0 < (Holds.view session.whole : Pool).workers
  allowed : (Holds.view session.whole : Cache).AllowedBy verdicts
  given : ∀ task ∈ session.tasks,
    task.ticket.number ≤ (Holds.view session.whole : Pool).issued ∧
      task.ticket.slot = task.formula.id
  answered : ∀ task ∈ session.tasks, ∀ verdict, task.phase = .answered verdict →
    verdicts task.formula.sample verdict
  listed : ∃ checked judged,
    formulas = checked ++ (session.tasks.map Task.formula ++ session.unsent) ∧
      List.Forall₂ (Formula.JudgedBy verdicts) checked judged ∧
      ∀ kept, session.kept = some kept → kept = judged
  handedIn : session.tasks ≠ [] → .handIn ∈ moves
  pending : session.unsent ≠ [] → .handIn ∈ moves → session.tasks ≠ []
  intact : session.IsIntact ↔ ¬ Restarted moves (session.tasks ≠ [])

namespace Session.Sound

variable {formulas : List Formula} {moves : List Move} {whole : state} {unsent : List Formula}
  {tasks : List Task} {kept : Option (List Formula)}

/-- The new task is current, and as its slot is none of theirs, the others stay what they are. -/
theorem handIn (pooled : Overlooks Pool (Kept Cache : state → state → Prop))
    (distinct : (formulas.map Formula.id).Nodup) {formula : Formula} {ticket : Ticket}
    (sound : Sound verdicts formulas moves ⟨whole, formula :: unsent, tasks, kept⟩)
    (submitted : (Pool.submit formula.id whole).1 = .ok ticket) :
    Sound verdicts formulas (moves ++ [.handIn])
      ⟨(Pool.submit formula.id whole).2, unsent, tasks ++ [⟨formula, ticket, .waiting⟩], kept⟩ := by
  obtain ⟨accepting, manned, allowed, given, answered, ⟨checked, judged, split, agrees⟩, -,
    pending, intact⟩ := sound
  dsimp only at accepting manned allowed given answered split agrees pending
  have pool : (Holds.view (Pool.submit formula.id whole).2 : Pool) =
      ((Holds.view whole : Pool).issue formula.id).2 := by rw [submit_eq, Holds.view_replace]
  have cache : (Holds.view (Pool.submit formula.id whole).2 : Cache) = Holds.view whole :=
    pooled _ _
  obtain rfl : ((Holds.view whole : Pool).issue formula.id).1 = ticket := by
    simp only [submit_eq, accepting, Bool.false_eq_true, ↓reduceIte] at submitted
    exact Except.ok.inj submitted
  have others (task : Task) (member : task ∈ tasks) : formula.id ≠ task.ticket.slot := by
    rw [split, List.map_append, List.map_append, ← List.append_assoc] at distinct
    have apart := (List.nodup_append.mp distinct).2.2
    rw [(given task member).2]
    refine (apart _ (List.mem_append_right _ ?_) _ (List.mem_cons_self ..)).symm
    rw [List.map_map]
    exact List.mem_map_of_mem member
  refine ⟨?_, ?_, ?_, ?_, ?_, ⟨checked, judged, ?_, agrees⟩, by simp, by simp, ?_⟩
  · rw [pool]
    exact accepting
  · rw [pool]
    exact manned
  · rw [cache]
    exact allowed
  · rw [pool]
    refine List.forall_mem_append.mpr ⟨fun task member => ?_, ?_⟩
    · exact ⟨Nat.le_succ_of_le (given task member).1, (given task member).2⟩
    · exact List.forall_mem_singleton.mpr ⟨Nat.le_refl _, rfl⟩
  · refine List.forall_mem_append.mpr ⟨answered, List.forall_mem_singleton.mpr ?_⟩
    intro verdict same
    cases same
  · rw [split]
    simp
  · refine isIntact_iff_of_own rfl intact (and_congr_right fun _ => ?_) fun earlier => by
      simpa using pending (by simp) earlier
    dsimp only
    rw [pool, List.forall_mem_append, List.forall_mem_singleton, isCurrent_issue]
    refine (and_iff_left rfl).trans (forall₂_congr fun task member => ?_)
    rw [isCurrent_issue_of_ne _ (others task member)]

theorem work (cached : Overlooks Cache (Kept Pool : state → state → Prop)) {left : state}
    {before after : List Task} {formula : Formula} {ticket : Ticket} {phase reached : Phase}
    (sound : Sound verdicts formulas moves
      ⟨whole, unsent, before ++ ⟨formula, ticket, phase⟩ :: after, kept⟩)
    (work : Work verdicts formula.sample phase whole reached left) :
    Sound verdicts formulas (moves ++ [.work])
      ⟨left, unsent, before ++ ⟨formula, ticket, reached⟩ :: after, kept⟩ := by
  obtain ⟨accepting, manned, allowed, given, answered, ⟨checked, judged, split, agrees⟩,
    handedIn, -, intact⟩ := sound
  dsimp only at accepting manned allowed given answered split agrees handedIn
  have pool : (Holds.view left : Pool) = Holds.view whole := work.kept_pool cached
  rw [List.forall_mem_append, List.forall_mem_cons] at given answered
  refine ⟨?_, ?_, (work.allowed allowed).1, ?_, ?_, ⟨checked, judged, ?_, agrees⟩, ?_, by simp,
    ?_⟩
  · rw [pool]
    exact accepting
  · rw [pool]
    exact manned
  · rw [pool, List.forall_mem_append, List.forall_mem_cons]
    exact given
  · rw [List.forall_mem_append, List.forall_mem_cons]
    exact ⟨answered.1, (work.allowed allowed).2, answered.2.2⟩
  · rw [split]
    simp
  · exact fun _ => List.mem_append_left _ (handedIn (by simp))
  · refine isIntact_iff_of_own rfl intact (and_congr_right fun _ => ?_) (by simp)
    simp only [pool, List.forall_mem_append, List.forall_mem_cons]

/-- The answer that is checked is kept if its task is current; otherwise nothing is kept from then
on. -/
theorem check {formula : Formula} {ticket : Ticket} {verdict : Verdict}
    (sound : Sound verdicts formulas moves
      ⟨whole, [], ⟨formula, ticket, .answered verdict⟩ :: tasks, kept⟩) :
    Sound verdicts formulas (moves ++ [.check])
      ⟨whole, [], tasks,
        keep kept formula ((Holds.view whole : Pool).verdict? ⟨ticket, verdict⟩)⟩ := by
  obtain ⟨accepting, manned, allowed, given, answered, ⟨checked, judged, split, all, kept_eq⟩,
    handedIn, -, intact⟩ := sound
  dsimp only at accepting manned allowed given answered split kept_eq handedIn
  obtain ⟨right, answered⟩ := List.forall_mem_cons.mp answered
  refine ⟨accepting, manned, allowed, (List.forall_mem_cons.mp given).2, answered,
    ⟨checked ++ [formula], judged ++ [formula.withVerdict verdict], ?_, ?_, ?_⟩, ?_, by simp, ?_⟩
  · rw [split]
    simp
  · exact List.rel_append all (.cons ⟨verdict, right verdict rfl, rfl⟩ .nil)
  · intro formulas same
    dsimp only at same
    cases earlier : kept with
    | none => rw [earlier] at same; cases same
    | some before =>
      rw [earlier, verdict?] at same
      split at same
      · cases same
        rw [kept_eq before earlier]
      · cases same
  · exact fun _ => List.mem_append_left _ (handedIn (by simp))
  · refine isIntact_iff_of_own rfl intact ?_ (by simp)
    simp only [IsIntact, isSome_keep, isSome_verdict?, List.forall_mem_cons, and_assoc]

theorem around {left : state} {events : List Event}
    (sound : Sound verdicts formulas moves ⟨whole, unsent, tasks, kept⟩)
    (around : Around verdicts (formulas.map Formula.id) events whole left) :
    Sound verdicts formulas (moves ++ [.around events]) ⟨left, unsent, tasks, kept⟩ := by
  obtain ⟨accepting, manned, allowed, given, answered, ⟨checked, judged, split, agrees⟩,
    handedIn, pending, intact⟩ := sound
  dsimp only at accepting manned allowed given answered split agrees handedIn pending
  have own (task : Task) (member : task ∈ tasks) :
      task.ticket.slot ∈ formulas.map Formula.id := by
    rw [(given task member).2, split]
    refine List.mem_map_of_mem (List.mem_append_right _ (List.mem_append_left _ ?_))
    exact List.mem_map_of_mem member
  refine ⟨?_, ?_, around.allowed allowed, ?_, answered, ⟨checked, judged, split, agrees⟩, ?_,
    ?_, ?_⟩
  · exact (around.history.closed_eq around.accepts).trans accepting
  · exact around.history.workers_eq ▸ manned
  · exact fun task member =>
      ⟨Nat.le_trans (given task member).1 around.history.issued_le, (given task member).2⟩
  · exact fun unchecked => List.mem_append_left _ (handedIn unchecked)
  · exact fun more earlier => pending more (by simpa using earlier)
  · have currents : (∀ task ∈ tasks, (Holds.view left : Pool).isCurrent task.ticket = true) ↔
        (∀ task ∈ tasks, (Holds.view whole : Pool).isCurrent task.ticket = true) ∧
          (tasks ≠ [] → ∀ epoch, .setEpoch epoch ∉ events) := by
      have each (task : Task) (member : task ∈ tasks) :=
        around.isCurrent_iff (given task member).1 (own task member)
      refine ⟨fun current => ⟨fun task member => ((each task member).mp (current task member)).1,
        fun unchecked => ?_⟩, fun ⟨current, unset⟩ task member => (each task member).mpr
          ⟨current task member, unset (List.ne_nil_of_mem member)⟩⟩
      obtain ⟨task, member⟩ := List.exists_mem_of_ne_nil _ unchecked
      exact ((each task member).mp (current task member)).2
    have restarted : Restarted (moves ++ [.around events]) (tasks ≠ []) ↔
        Restarted moves (tasks ≠ []) ∨ (tasks ≠ [] ∧ ∃ epoch, .setEpoch epoch ∈ events) := by
      rw [restarted_snoc]
      refine or_congr (restarted_congr fun _ => by simp) ⟨?_, fun ⟨unchecked, set⟩ => ?_⟩
      · rintro ⟨_, same, -, unchecked, set⟩
        cases same
        exact ⟨unchecked, set⟩
      · exact ⟨events, rfl, handedIn unchecked, unchecked, set⟩
    rw [IsIntact, currents, ← and_assoc]
    refine (and_congr_left fun _ => intact).trans ?_
    dsimp only
    rw [restarted, not_or]
    simp

end Session.Sound

variable {formulas : List Formula}

/-- The invariant of a session that starts in an open pool. -/
theorem Session.sound_start {whole : state} (accepting : (Holds.view whole : Pool).closed = false)
    (manned : 0 < (Holds.view whole : Pool).workers)
    (allowed : (Holds.view whole : Cache).AllowedBy verdicts) :
    Sound verdicts formulas [] ⟨whole, formulas, [], some []⟩ where
  accepting := accepting
  manned := manned
  allowed := allowed
  given := by simp
  answered := by simp
  listed := ⟨[], [], by simp, .nil, by simp⟩
  handedIn := by simp
  pending := by simp
  intact := by simp [IsIntact, not_restarted_nil]

section Runs

variable (pooled : Overlooks Pool (Kept Cache : state → state → Prop))
  (cached : Overlooks Cache (Kept Pool : state → state → Prop))
  (distinct : (formulas.map Formula.id).Nodup) {moves more : List Move} {move : Move}
  {session next : Session state}

include pooled cached distinct

theorem Session.Sound.step (sound : session.Sound verdicts formulas moves)
    (step : Step verdicts (formulas.map Formula.id) move session next) :
    next.Sound verdicts formulas (moves ++ [move]) := by
  cases step with
  | handIn submitted => exact sound.handIn pooled distinct submitted
  | work work _ => exact sound.work cached work
  | check => exact sound.check
  | around around => exact sound.around around

theorem Session.Sound.run (sound : session.Sound verdicts formulas moves)
    (run : Run verdicts (formulas.map Formula.id) more session next) :
    next.Sound verdicts formulas (moves ++ more) := by
  induction run with
  | idle => rw [List.append_nil]; exact sound
  | snoc _ step ih =>
    rw [← List.append_assoc]
    exact (ih sound).step pooled cached distinct step

/-- A move of the session itself makes none of its tasks old. -/
theorem Session.Sound.isIntact_of_own (sound : session.Sound verdicts formulas moves)
    (step : Step verdicts (formulas.map Formula.id) move session next) (own : move.isOwn = true) :
    next.IsIntact ↔ session.IsIntact := by
  refine (sound.step pooled cached distinct step).intact.trans
    ((not_congr ?_).trans sound.intact.symm)
  rw [restarted_snoc_of_own own]
  refine restarted_congr fun handedIn => ?_
  cases step with
  | handIn => simpa using sound.pending (by simp) handedIn
  | work => simp
  | check => simp
  | around => cases own

end Runs

end Invariant

end FormulaRepair.Pool
