import FormulaRepair.Transport

/-! # Trying again

A call that fails is tried again after a pause that grows with every attempt. A value ends the
attempts, and so does a failure that says the repair is to be given up; other failures do so when
the attempts are used up.
-/

namespace FormulaRepair.Retry

/-- What the number of an attempt is compared with. -/
inductive Bound
  | whole (count : Int)
  | decimal (count : Float)
  /-- A value that numbers cannot be compared with. -/
  | incomparable (kind : Text)
deriving Repr, Inhabited

/-- Is an attempt, counted from zero, the last one that the bound allows? The failure is the kind of
a value that cannot tell. -/
def Bound.reached (bound : Bound) (attempt : Nat) : Except Text Bool :=
  match bound with
  | whole count => .ok (count ≤ attempt)
  | decimal count => .ok (count ≤ Float.ofNat attempt)
  | incomparable kind => .error kind

/-- How often to try again: the whole number decides on the number of attempts, and the bound on
pausing between them. -/
structure Limit where
  retries : Int
  bound : Bound
deriving Repr, Inhabited

/-- The limit of a whole number. -/
def Limit.ofInt (count : Int) : Limit := ⟨count, .whole count⟩

/-- The limit that an untyped value stands for. -/
def Limit.ofData? (value : Data) : Except Data.WholeProblem Limit := do
  let retries ← value.whole?
  return ⟨retries, match value with
    | .float count => .decimal count
    | .int count => .whole count
    | .bool _ => .whole retries
    | other => .incomparable other.kindName⟩

/-- How many attempts there are at most. -/
def Limit.attempts (limit : Limit) : Nat := limit.retries.toNat + 1

/-- How attempts end without a value. -/
inductive Problem
  /-- The call asked for the repair to be given up. -/
  | repair (message : Text)
  /-- The attempts are used up; the last failure is told. -/
  | exhausted (what : Text) (last : CallProblem)
  /-- The bound cannot be compared with the number of an attempt. -/
  | incomparable (kind : Text)
deriving DecidableEq, Repr, Inhabited

/-- The message for attempts that ended without a value. -/
def Problem.message : Problem → Text
  | repair message => message
  | exhausted what last => what ++ " failed: ".toList ++ last.message
  | incomparable kind =>
      "'>=' not supported between instances of 'int' and '".toList ++ kind ++ ['\'']

/-- The pause after an attempt, counted from zero, in seconds. -/
def pauseAfter (attempt : Nat) : Float := 0.6 * Float.ofNat (attempt + 1)

variable {state α : Type}

/-- Make the remaining attempts, where `attempt` of them have been made; `last` is the failure of the
latest one. -/
def runFrom (bound : Bound) (what : Text) (pause : Float → StateM state Unit)
    (call : StateM state (Except CallProblem α)) (attempt : Nat) (last : CallProblem) :
    Nat → StateM state (Except Problem α)
  | 0 => return .error (.exhausted what last)
  | remaining + 1 => do
      match ← call with
      | .ok value => return .ok value
      | .error (.repair message) => return .error (.repair message)
      | .error problem =>
          match bound.reached attempt with
          | .error kind => return .error (.incomparable kind)
          | .ok true => return .error (.exhausted what problem)
          | .ok false =>
              pause (pauseAfter attempt)
              runFrom bound what pause call (attempt + 1) problem remaining

/-- Make a call until it gives a value, within a limit. `what` names the call in messages. -/
def run (limit : Limit) (what : Text) (pause : Float → StateM state Unit)
    (call : StateM state (Except CallProblem α)) : StateM state (Except Problem α) :=
  runFrom limit.bound what pause call 0 default limit.attempts

end FormulaRepair.Retry
