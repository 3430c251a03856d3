import FormulaRepair.Proofs.Actions
import FormulaRepair.Service.Answer

/-! # How often a call is tried

The attempts at a call that the limit allows follow a course: failures, each with a pause behind it
that is as long as its number asks, and one more attempt, which ends them all. The number of attempts
that decides when the loop runs out and the whole number that decides about the pauses are not the
same, and they fit together for every limit, negative ones too.
-/

namespace FormulaRepair.Retry

variable {state α : Type}

/-- What happens while a call is tried. -/
inductive Event (α : Type)
  | attempt (outcome : Except CallProblem α)
  | pause (seconds : Float)

namespace Event

/-- Is it an attempt at the call? -/
def isAttempt : Event α → Bool
  | attempt _ => true
  | pause _ => false

/-- Is it a pause? -/
def isPause (event : Event α) : Bool := !event.isAttempt

@[simp] theorem isAttempt_attempt (outcome : Except CallProblem α) :
    (attempt outcome).isAttempt = true := rfl

@[simp] theorem isAttempt_pause (seconds : Float) : (pause seconds : Event α).isAttempt = false := rfl

@[simp] theorem isPause_attempt (outcome : Except CallProblem α) :
    (attempt outcome).isPause = false := rfl

@[simp] theorem isPause_pause (seconds : Float) : (pause seconds : Event α).isPause = true := rfl

end Event

/-- A state with a log of what happened on it. -/
structure Logged (state α : Type) where
  whole : state
  events : List (Event α) := []

/-- The same call, and the log tells of its outcome. -/
def logCall (call : StateM state (Except CallProblem α)) :
    StateM (Logged state α) (Except CallProblem α) := fun before =>
  let (outcome, whole) := call before.whole
  (outcome, ⟨whole, before.events ++ [.attempt outcome]⟩)

/-- The same pause, and the log tells how long it is. -/
def logPause (pause : Float → StateM state Unit) (seconds : Float) :
    StateM (Logged state α) Unit := fun before =>
  ((), ⟨(pause seconds before.whole).2, before.events ++ [.pause seconds]⟩)

/-- How attempts go: failures in front, none of which gives the repair up, and the outcome of the
last attempt. -/
structure Course (α : Type) where
  failures : List CallProblem
  last : Except CallProblem α
  goesOn : ∀ problem ∈ failures, ∀ message, problem ≠ .repair message

namespace Course

/-- The course of the one attempt that ends everything. -/
def single (last : Except CallProblem α) : Course α := ⟨[], last, nofun⟩

/-- The course with one more failure in front. -/
def behind (problem : CallProblem) (other : ∀ message, problem ≠ .repair message)
    (course : Course α) : Course α :=
  ⟨problem :: course.failures, course.last, List.forall_mem_cons.mpr ⟨other, course.goesOn⟩⟩

/-- How many attempts there are. -/
def attempts (course : Course α) : Nat := course.failures.length + 1

/-- The failures with the pauses behind them, counted from the given number. -/
def failuresFrom (number : Nat) : List CallProblem → List (Event α)
  | [] => []
  | problem :: later =>
      .attempt (.error problem) :: .pause (0.6 * Float.ofNat number) ::
        failuresFrom (number + 1) later

/-- What the log tells where the first attempt of the course has the given number. -/
def eventsFrom (number : Nat) (course : Course α) : List (Event α) :=
  failuresFrom number course.failures ++ [.attempt course.last]

/-- With so many attempts at most, this is what comes of the course: the value of the last attempt,
the failure that gives the repair up, or the failure of the last one that is allowed. -/
structure Ends (course : Course α) (most : Nat) (what : Text) (result : Except Problem α) : Prop where
  within : course.attempts ≤ most
  value : ∀ value, course.last = .ok value → result = .ok value
  givenUp : ∀ message, course.last = .error (.repair message) → result = .error (.repair message)
  exhausted : ∀ problem, course.last = .error problem → (∀ message, problem ≠ .repair message) →
    course.attempts = most ∧ result = .error (.exhausted what problem)

private theorem eventsFrom_behind {problem : CallProblem}
    (other : ∀ message, problem ≠ .repair message) (course : Course α) (number : Nat) :
    (course.behind problem other).eventsFrom number =
      [.attempt (.error problem)] ++ [.pause (0.6 * Float.ofNat number)] ++
        course.eventsFrom (number + 1) := rfl

variable {most : Nat} {what : Text} {result : Except Problem α}

private theorem ends_value (value : α) : (single (.ok value)).Ends (most + 1) what (.ok value) where
  within := Nat.succ_le_succ most.zero_le
  value := fun _ same => by cases same; rfl
  givenUp := nofun
  exhausted := nofun

private theorem ends_givenUp (message : Text) :
    (single (.error (.repair message) : Except CallProblem α)).Ends (most + 1) what
      (.error (.repair message)) where
  within := Nat.succ_le_succ most.zero_le
  value := nofun
  givenUp := fun _ same => by cases same; rfl
  exhausted := fun problem same other => by cases same; exact absurd rfl (other message)

private theorem ends_exhausted {problem : CallProblem}
    (other : ∀ message, problem ≠ .repair message) :
    (single (.error problem : Except CallProblem α)).Ends 1 what
      (.error (.exhausted what problem)) where
  within := Nat.le_refl 1
  value := nofun
  givenUp := fun message same => by cases same; exact absurd rfl (other message)
  exhausted := fun _ same _ => by cases same; exact ⟨rfl, rfl⟩

/-- A failure in front takes one attempt and leaves what comes of the course as it is. -/
theorem Ends.behind {course : Course α} (ends : course.Ends most what result) {problem : CallProblem}
    (other : ∀ message, problem ≠ .repair message) :
    (course.behind problem other).Ends (most + 1) what result where
  within := Nat.succ_le_succ ends.within
  value := ends.value
  givenUp := ends.givenUp
  exhausted := fun problem last stays =>
    let ⟨all, result⟩ := ends.exhausted problem last stays
    ⟨congrArg Nat.succ all, result⟩

/-- Each failure comes with one attempt and one pause. -/
theorem countP_failuresFrom (number : Nat) (failures : List CallProblem) :
    (failuresFrom number failures : List (Event α)).countP Event.isAttempt = failures.length ∧
      (failuresFrom number failures : List (Event α)).countP Event.isPause = failures.length := by
  induction failures generalizing number with
  | nil => exact ⟨rfl, rfl⟩
  | cons problem later ih => simp [failuresFrom, List.countP_cons, ih (number + 1)]

/-- There is one pause less than there are attempts. -/
theorem countP_eventsFrom (course : Course α) (number : Nat) :
    (course.eventsFrom number).countP Event.isAttempt = course.attempts ∧
      (course.eventsFrom number).countP Event.isPause + 1 = course.attempts := by
  simp [eventsFrom, attempts, countP_failuresFrom]

end Course

section OneAttempt

variable {count : Int} {what : Text} {pause : Float → StateM state Unit}
  {call : StateM state (Except CallProblem α)} {attempt remaining : Nat} {last : CallProblem}
  {before after : state}

theorem runFrom_value {value : α} (gives : call before = (.ok value, after)) :
    runFrom (.whole count) what pause call attempt last (remaining + 1) before =
      (.ok value, after) := by
  rw [runFrom, run_bind, gives]
  rfl

theorem runFrom_givenUp {message : Text} (fails : call before = (.error (.repair message), after)) :
    runFrom (.whole count) what pause call attempt last (remaining + 1) before =
      (.error (.repair message), after) := by
  rw [runFrom, run_bind, fails]
  rfl

/-- Behind another failure the attempts end where the limit does not exceed the number of this one. -/
theorem runFrom_failed {problem : CallProblem} (other : ∀ message, problem ≠ .repair message)
    (fails : call before = (.error problem, after)) :
    runFrom (.whole count) what pause call attempt last (remaining + 1) before =
      if count ≤ attempt then (.error (.exhausted what problem), after)
      else runFrom (.whole count) what pause call (attempt + 1) problem remaining
        (pause (pauseAfter attempt) after).2 := by
  rw [runFrom, run_bind, fails]
  cases problem with
  | repair message => exact absurd rfl (other message)
  | network fault | unreadable fault | other fault =>
    simp only [Bound.reached]
    by_cases stops : count ≤ attempt
    · simp only [decide_eq_true stops, if_pos stops]
      rfl
    · simp only [decide_eq_false stops, if_neg stops]
      rfl

private theorem logCall_eq {outcome : Except CallProblem α} (gives : call before = (outcome, after))
    (events : List (Event α)) :
    logCall call ⟨before, events⟩ = (outcome, ⟨after, events ++ [.attempt outcome]⟩) := by
  rw [logCall, gives]

end OneAttempt

/-- The attempts that are left follow a course, and the log tells exactly of this course. The numbers
of attempts made and left add up to all that the limit allows, so that the last one is the one behind
which there is no pause. -/
theorem exists_course {count : Int} {what : Text} {pause : Float → StateM state Unit}
    {call : StateM state (Except CallProblem α)} {attempt remaining : Nat} {last : CallProblem}
    {before after : state} {result : Except Problem α} (within : attempt ≤ count.toNat)
    (total : attempt + remaining = count.toNat + 1)
    (runs : runFrom (.whole count) what pause call attempt last remaining before = (result, after))
    (events : List (Event α)) :
    ∃ course : Course α, course.Ends remaining what result ∧
      runFrom (.whole count) what (logPause pause) (logCall call) attempt last remaining
        ⟨before, events⟩ = (result, ⟨after, events ++ course.eventsFrom (attempt + 1)⟩) := by
  induction remaining generalizing attempt last before events with
  | zero => omega
  | succ remaining ih =>
    rcases outcome : call before with ⟨problem | value, whole⟩
    · have logged := logCall_eq outcome events
      by_cases givenUp : ∃ message, problem = .repair message
      · obtain ⟨message, rfl⟩ := givenUp
        rw [runFrom_givenUp outcome] at runs
        cases runs
        exact ⟨.single (.error (.repair message)), Course.ends_givenUp message,
          runFrom_givenUp logged⟩
      · have other : ∀ message, problem ≠ .repair message := not_exists.mp givenUp
        rw [runFrom_failed other outcome] at runs
        rw [runFrom_failed other logged]
        split at runs
        -- The limit does not exceed the number of this attempt, so it is the last one.
        · next stops =>
          cases runs
          obtain rfl : remaining = 0 := by omega
          rw [if_pos stops]
          exact ⟨.single (.error problem), Course.ends_exhausted other, rfl⟩
        · next continues =>
          rw [if_neg continues]
          obtain ⟨course, ends, later⟩ := ih (by omega) (by omega) runs
            (events ++ [.attempt (.error problem)] ++ [.pause (pauseAfter attempt)])
          refine ⟨course.behind problem other, ends.behind other, later.trans ?_⟩
          rw [Course.eventsFrom_behind, pauseAfter, ← List.append_assoc, ← List.append_assoc]
    · rw [runFrom_value outcome] at runs
      cases runs
      exact ⟨.single (.ok value), Course.ends_value value, runFrom_value (logCall_eq outcome events)⟩

/-- Within a limit that is a whole number, a call is tried until its first value or its first failure
that gives the repair up, which come back as they are, and at most once more often than the limit
says; when all of these attempts fail, the last failure is told. Behind each attempt but the last one
there is one pause, of 0.6 seconds times the number of the attempt. The log changes nothing. -/
theorem run_follows_course (count : Int) (what : Text) (pause : Float → StateM state Unit)
    (call : StateM state (Except CallProblem α)) (before : state) :
    ∃ course : Course α,
      course.Ends (max 0 count + 1).toNat what (run (.ofInt count) what pause call before).1 ∧
      run (.ofInt count) what (logPause pause) (logCall call) ⟨before, []⟩ =
        ((run (.ofInt count) what pause call before).1,
          ⟨(run (.ofInt count) what pause call before).2, course.eventsFrom 1⟩) ∧
      (course.eventsFrom 1).countP Event.isAttempt = course.attempts ∧
      (course.eventsFrom 1).countP Event.isPause = course.attempts - 1 ∧
      (∀ message, ServiceProblem.ofRetry (.repair message) = .repair message) ∧
      ∀ problem : CallProblem, ServiceProblem.ofRetry (.exhausted what problem) =
        .repair (what ++ " failed: ".toList ++ problem.message) := by
  obtain ⟨course, ends, logged⟩ := exists_course (Nat.zero_le count.toNat) (Nat.zero_add _)
    (show run (.ofInt count) what pause call before = (_, _) from rfl) []
  obtain ⟨tried, paused⟩ := course.countP_eventsFrom 1
  have most : (max 0 count + 1).toNat = count.toNat + 1 := by omega
  rw [most]
  exact ⟨course, ends, logged, tried, by omega, fun _ => rfl, fun _ => rfl⟩

end FormulaRepair.Retry
