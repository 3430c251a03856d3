import FormulaRepair.Validation

/-! # A pool of validations

Validations run side by side and may finish in any order. Each gets a ticket with a number of its own,
the epoch in which it was handed in, and a slot. A response counts only while its ticket is current:
while the epoch has not been set since, and nothing has been handed in for the slot since. A closed
pool takes no more work, but what is handed in to it still gets a ticket and so makes the slot's
earlier tickets old.
-/

namespace FormulaRepair

/-- What a validation that was handed in is known by. -/
structure Ticket where
  number : Nat
  epoch : Int
  slot : Text
deriving DecidableEq, Repr, Inhabited

/-- A verdict together with the ticket of its validation. -/
structure Response where
  ticket : Ticket
  verdict : Verdict
deriving DecidableEq, Repr, Inhabited

/-- The book of a pool: the tickets given out, the epoch, and the latest ticket of each slot. -/
structure Pool where
  workers : Nat
  issued : Nat := 0
  epoch : Int := 0
  latest : List (Text × Nat) := []
  closed : Bool := false
deriving Repr, Inhabited

/-- Work was handed in to a closed pool. -/
inductive PoolClosed
  | mk
deriving DecidableEq, Repr, Inhabited

/-- The message for work handed in to a closed pool. -/
def PoolClosed.message (_ : PoolClosed) : Text :=
  "cannot schedule new futures after shutdown".toList

namespace Pool

/-- A pool has at least one worker and at most this many. -/
def workerLimit : Int := 32

/-- A pool with the wanted number of workers, as far as the limits allow. -/
def ofWorkers (wanted : Int) : Pool := { workers := (max 1 (min workerLimit wanted)).toNat }

/-- The number of the latest ticket of a slot since the epoch was set. -/
def latest? (pool : Pool) (slot : Text) : Option Nat :=
  (pool.latest.find? (·.1 == slot)).map (·.2)

/-- Set the epoch; every ticket given out so far becomes old. -/
def setEpoch (pool : Pool) (epoch : Int) : Pool := { pool with epoch := epoch, latest := [] }

/-- Take no more work. -/
def close (pool : Pool) : Pool := { pool with closed := true }

/-- Give out the next ticket, for a slot. -/
def issue (pool : Pool) (slot : Text) : Ticket × Pool :=
  let number := pool.issued + 1
  (⟨number, pool.epoch, slot⟩,
    { pool with
      issued := number
      latest := (slot, number) :: pool.latest.filter (·.1 != slot) })

/-- Is the ticket the latest of its slot, in the present epoch? -/
def isCurrent (pool : Pool) (ticket : Ticket) : Bool :=
  ticket.epoch == pool.epoch && pool.latest? ticket.slot == some ticket.number

/-- The verdict of a response whose ticket is current. -/
def verdict? (pool : Pool) (response : Response) : Option Verdict :=
  if pool.isCurrent response.ticket then some response.verdict else none

variable {state : Type} [Holds Pool state]

/-- Hand in a validation for a slot. -/
def submit (slot : Text) : StateM state (Except PoolClosed Ticket) := do
  let (ticket, pool) := (← Holds.read Pool).issue slot
  Holds.update fun _ => pool
  return if pool.closed then .error .mk else .ok ticket

/-- Hand in the validations of formulas, each for the slot of its own id. -/
def submitAll : List Formula → StateM state (Except PoolClosed (List (Formula × Ticket)))
  | [] => return .ok []
  | formula :: formulas => do
      match ← submit formula.id with
      | .error closed => return .error closed
      | .ok ticket =>
          match ← submitAll formulas with
          | .error closed => return .error closed
          | .ok tickets => return .ok ((formula, ticket) :: tickets)

variable [Holds Cache state]

/-- Carry out a validation that was handed in. -/
def respond (renderer : Renderer state) (ticket : Ticket) (sample : Sample) :
    StateM state Response := do
  return ⟨ticket, ← renderer.validate sample⟩

/-- Carry out the validations of formulas. -/
def respondAll (renderer : Renderer state) :
    List (Formula × Ticket) → StateM state (List (Formula × Response))
  | [] => return []
  | (formula, ticket) :: work => do
      let response ← respond renderer ticket formula.sample
      return (formula, response) :: (← respondAll renderer work)

/-- The formulas with their verdicts; none of them when a single response is old. -/
def collect? (pool : Pool) : List (Formula × Response) → Option (List Formula)
  | [] => some []
  | (formula, response) :: work =>
      match pool.verdict? response, collect? pool work with
      | some verdict, some formulas => some (formula.withVerdict verdict :: formulas)
      | _, _ => none

/-- Validate formulas in the pool. There is no answer when one of the responses is old, which means
that the document of the formulas has been replaced. -/
def validateFormulas (renderer : Renderer state) (formulas : List Formula) :
    StateM state (Except PoolClosed (Option (List Formula))) := do
  match ← submitAll formulas with
  | .error closed => return .error closed
  | .ok work =>
      let responses ← respondAll renderer work
      return .ok ((← Holds.read Pool).collect? responses)

end Pool

end FormulaRepair
