import FormulaRepair.Desk
import FormulaRepair.Proofs.Actions

/-! # The latest ticket of a slot

Work is handed in to a pool, epochs are set, the pool is closed and responses come in, in any order and
also from inside a typesetter that is running; a history lists what has happened to the pool on the
way. A ticket is current exactly as long as the history behind it neither sets the epoch, whatever to,
nor gives out another ticket for its slot. A submission that is refused uses up a ticket as well.
-/

namespace FormulaRepair.Pool

/-- What happens around a pool. Every submission is given a ticket, be it refused or not. -/
inductive Event
  | submit (ticket : Ticket)
  | setEpoch (epoch : Int)
  | shutDown
  | finish (response : Response)
deriving DecidableEq, Repr

/-- An event that makes all tickets old that the slot has been given before. -/
def Event.Supersedes (slot : Text) : Event → Prop
  | submit ticket => ticket.slot = slot
  | setEpoch _ => True
  | shutDown | finish _ => False

instance (slot : Text) : DecidablePred (Event.Supersedes slot)
  | .submit ticket => inferInstanceAs (Decidable (ticket.slot = slot))
  | .setEpoch _ => .isTrue trivial
  | .shutDown | .finish _ => .isFalse id

/-- The ticket that an event gives out. -/
def Event.ticket? : Event → Option Ticket
  | submit ticket => some ticket
  | _ => none

/-- The tickets given out in the course of events. -/
def tickets (events : List Event) : List Ticket := events.filterMap Event.ticket?

theorem mem_tickets {events : List Event} {ticket : Ticket} :
    ticket ∈ tickets events ↔ .submit ticket ∈ events := by
  rw [tickets, List.mem_filterMap]
  constructor
  · rintro ⟨event, member, given⟩
    cases event <;> cases given
    exact member
  · exact fun member => ⟨_, member, rfl⟩

section Books

variable (pool : Pool)

theorem latest?_issue (slot other : Text) :
    (pool.issue slot).2.latest? other =
      if slot = other then some (pool.issued + 1) else pool.latest? other := by
  by_cases same : slot = other
  · simp [latest?, issue, same]
  · have passed : (pool.latest.filter (·.1 != slot)).find? (·.1 == other) =
        pool.latest.find? (·.1 == other) := by
      rw [List.find?_filter]
      congr 1
      funext entry
      by_cases here : entry.1 = other <;> simp [here, Ne.symm same]
    simp [latest?, issue, same, passed]

/-- A ticket that has just been given out is current. -/
theorem isCurrent_issue (slot : Text) :
    (pool.issue slot).2.isCurrent (pool.issue slot).1 = true := by
  have latest := pool.latest?_issue slot slot
  rw [if_pos rfl] at latest
  simp only [isCurrent, Bool.and_eq_true, beq_iff_eq]
  exact ⟨rfl, latest⟩

/-- A new ticket leaves those of other slots as they are. -/
theorem isCurrent_issue_of_ne {ticket : Ticket} {slot : Text} (other : slot ≠ ticket.slot) :
    (pool.issue slot).2.isCurrent ticket = pool.isCurrent ticket := by
  rw [isCurrent, latest?_issue, if_neg other]
  rfl

/-- A new ticket makes the earlier ones of its slot old. -/
theorem isCurrent_issue_same {ticket : Ticket} (given : ticket.number ≤ pool.issued) :
    (pool.issue ticket.slot).2.isCurrent ticket = false := by
  have later : pool.issued + 1 ≠ ticket.number := by omega
  simp [isCurrent, latest?_issue, later]

/-- Setting the epoch makes all tickets old, even when it stays the same. -/
theorem isCurrent_setEpoch (ticket : Ticket) (epoch : Int) :
    (pool.setEpoch epoch).isCurrent ticket = false := by
  simp [isCurrent, setEpoch, latest?]

end Books

variable {state : Type} [Holds Pool state]

/-- A submission is given a ticket, and is refused when the pool is closed. -/
theorem submit_eq (slot : Text) (whole : state) :
    Pool.submit slot whole =
      let pool : Pool := Holds.view whole
      (if pool.closed then .error .mk else .ok (pool.issue slot).1,
        Holds.replace (pool.issue slot).2 whole) := rfl

/-- What happens to a pool while a state changes. In between, everything but the pool may change in any
way, and responses may come in at any time. -/
inductive History : List Event → state → state → Prop
  | idle {before after : state} :
      (Holds.view after : Pool) = Holds.view before → History [] before after
  | submit (slot : Text) (whole : state) :
      History [.submit ((Holds.view whole : Pool).issue slot).1] whole (Pool.submit slot whole).2
  | setEpoch (epoch : Int) (whole : state) :
      History [.setEpoch epoch] whole
        (Holds.update (fun pool : Pool => pool.setEpoch epoch) whole).2
  | shutDown (whole : state) :
      History [.shutDown] whole (Holds.update (fun pool : Pool => pool.close) whole).2
  | finish (response : Response) (whole : state) : History [.finish response] whole whole
  | trans {first second : List Event} {before between after : state} :
      History first before between → History second between after →
      History (first ++ second) before after

/-- A response comes in when its validation is over, with whatever the typesetter has done to the pool
before. -/
theorem History.respond [Holds Cache state] {renderer : Renderer state} {whole : state}
    {events : List Event} (ticket : Ticket) (sample : Sample)
    (validated : History events whole (renderer.validate sample whole).2) :
    History (events ++ [.finish (Pool.respond renderer ticket sample whole).1]) whole
      (Pool.respond renderer ticket sample whole).2 :=
  .trans validated (.finish _ _)

private theorem eq_of_singleton_split {event : Event} {before after : List Event} {ticket : Ticket}
    (split : [event] = before ++ .submit ticket :: after) : event = .submit ticket ∧ after = [] := by
  cases before with
  | nil => exact ⟨(List.cons.inj split).1, (List.cons.inj split).2.symm⟩
  | cons first before => simp at split

namespace History

variable {events : List Event} {start final : state}

theorem issued_le (history : History events start final) :
    (Holds.view start : Pool).issued ≤ (Holds.view final : Pool).issued := by
  induction history with
  | idle same => exact Nat.le_of_eq (congrArg Pool.issued same.symm)
  | submit slot whole => rw [submit_eq, Holds.view_replace]; exact Nat.le_succ _
  | setEpoch epoch whole => rw [Holds.update, Holds.view_replace]; exact Nat.le_refl _
  | shutDown whole => rw [Holds.update, Holds.view_replace]; exact Nat.le_refl _
  | finish response whole => exact Nat.le_refl _
  | trans _ _ first second => exact Nat.le_trans first second

/-- The tickets of a history have the numbers that the pool has given out on the way. -/
theorem number_bounds (history : History events start final) {ticket : Ticket}
    (given : .submit ticket ∈ events) :
    (Holds.view start : Pool).issued < ticket.number ∧
      ticket.number ≤ (Holds.view final : Pool).issued := by
  induction history with
  | idle same => cases given
  | submit slot whole =>
    obtain rfl := Event.submit.inj (List.mem_singleton.mp given)
    rw [submit_eq, Holds.view_replace]
    exact ⟨Nat.lt_succ_self _, Nat.le_refl _⟩
  | setEpoch epoch whole => cases List.mem_singleton.mp given
  | shutDown whole => cases List.mem_singleton.mp given
  | finish response whole => cases List.mem_singleton.mp given
  | trans earlier later first second =>
    rcases List.mem_append.mp given with given | given
    · exact ⟨(first given).1, Nat.le_trans (first given).2 later.issued_le⟩
    · exact ⟨Nat.lt_of_le_of_lt earlier.issued_le (second given).1, (second given).2⟩

/-- Tickets are numbered in the order in which they are given out. -/
theorem pairwise_tickets (history : History events start final) :
    (tickets events).Pairwise fun earlier later => earlier.number < later.number := by
  induction history with
  | idle same => exact .nil
  | submit slot whole => exact List.pairwise_singleton _ _
  | setEpoch epoch whole => exact .nil
  | shutDown whole => exact .nil
  | finish response whole => exact .nil
  | trans earlier later first second =>
    rw [tickets, List.filterMap_append]
    refine List.pairwise_append.mpr ⟨first, second, fun one given other givenLater => ?_⟩
    have passed := (earlier.number_bounds (mem_tickets.mp given)).2
    have reached := (later.number_bounds (mem_tickets.mp givenLater)).1
    omega

/-- A ticket given out before stays current as long as nothing supersedes it, and no longer. -/
theorem isCurrent_iff (history : History events start final) {ticket : Ticket}
    (given : ticket.number ≤ (Holds.view start : Pool).issued) :
    (Holds.view final : Pool).isCurrent ticket = true ↔
      (Holds.view start : Pool).isCurrent ticket = true ∧
        ∀ event ∈ events, ¬ event.Supersedes ticket.slot := by
  induction history with
  | idle same => simp [same]
  | submit slot whole =>
    rw [submit_eq, Holds.view_replace, List.forall_mem_singleton]
    change _ ↔ _ ∧ ¬ slot = ticket.slot
    by_cases same : slot = ticket.slot
    · rw [same, isCurrent_issue_same _ given]
      simp
    · simp [isCurrent_issue_of_ne _ same, same]
  | setEpoch epoch whole =>
    rw [Holds.update, Holds.view_replace, isCurrent_setEpoch]
    simp [Event.Supersedes]
  | shutDown whole =>
    rw [Holds.update, Holds.view_replace]
    simp [Event.Supersedes, close, isCurrent, latest?]
  | finish response whole => simp [Event.Supersedes]
  | trans earlier later first second =>
    rw [second (Nat.le_trans given earlier.issued_le), first given, List.forall_mem_append,
      and_assoc]

/-- From the time on that it is given out, a ticket is current as long as nothing supersedes it. -/
theorem isCurrent_of_split (history : History events start final) {before after : List Event}
    {ticket : Ticket} (split : events = before ++ .submit ticket :: after) :
    (Holds.view final : Pool).isCurrent ticket = true ↔
      ∀ event ∈ after, ¬ event.Supersedes ticket.slot := by
  induction history generalizing before after with
  | idle same => simp at split
  | submit slot whole =>
    obtain ⟨given, rfl⟩ := eq_of_singleton_split split
    obtain rfl := Event.submit.inj given
    rw [submit_eq, Holds.view_replace]
    simp [isCurrent_issue]
  | setEpoch epoch whole => cases (eq_of_singleton_split split).1
  | shutDown whole => cases (eq_of_singleton_split split).1
  | finish response whole => cases (eq_of_singleton_split split).1
  | @trans first second _ _ _ earlier later ihFirst ihSecond =>
    rcases List.append_eq_append_iff.mp split with ⟨middle, -, inSecond⟩ | ⟨middle, inFirst, rest⟩
    · exact ihSecond inSecond
    · cases middle with
      | nil =>
        have opening : second = [] ++ .submit ticket :: after := rest.symm
        exact ihSecond opening
      | cons event middle =>
        simp only [List.cons_append, List.cons.injEq] at rest
        obtain ⟨rfl, rfl⟩ := rest
        have given : Event.submit ticket ∈ first := by rw [inFirst]; simp
        rw [later.isCurrent_iff (earlier.number_bounds given).2, ihFirst inFirst,
          List.forall_mem_append]

end History

/-- The latest wins in every slot. Whatever happens to a pool and in whatever order, the response to a
submission counts exactly as long as, since the submission, the epoch has not been set and nothing has
been submitted for the slot. So the tickets of a slot are never current together, those of another
slot do not matter, and all tickets are numbered in the order of their submissions. -/
theorem latest_wins {events : List Event} {start final : state}
    (history : History events start final) :
    (∀ before ticket after, events = before ++ .submit ticket :: after →
      ((Holds.view final : Pool).isCurrent ticket = true ↔
        ∀ event ∈ after, ¬ event.Supersedes ticket.slot) ∧
      ∀ verdict, (Holds.view final : Pool).verdict? ⟨ticket, verdict⟩ =
        if ∀ event ∈ after, ¬ event.Supersedes ticket.slot then some verdict else none) ∧
    (tickets events).Pairwise (fun earlier later => earlier.number < later.number) ∧
    (∀ first ∈ tickets events, ∀ second ∈ tickets events, first.slot = second.slot →
      (Holds.view final : Pool).isCurrent first = true →
      (Holds.view final : Pool).isCurrent second = true → first = second) ∧
    ∀ (ticket : Ticket) (slot : Text), slot ≠ ticket.slot →
      ((Holds.view final : Pool).issue slot).2.isCurrent ticket =
        (Holds.view final : Pool).isCurrent ticket := by
  refine ⟨fun before ticket after split => ?_, history.pairwise_tickets, ?_,
    fun ticket slot => isCurrent_issue_of_ne _⟩
  · have current := history.isCurrent_of_split split
    exact ⟨current, fun verdict => by simp only [verdict?, current]⟩
  · intro first firstGiven second secondGiven same firstCurrent secondCurrent
    obtain ⟨before, after, split⟩ := List.append_of_mem (mem_tickets.mp firstGiven)
    have unharmed := (history.isCurrent_of_split split).mp firstCurrent
    have member := mem_tickets.mp secondGiven
    rw [split, List.mem_append, List.mem_cons] at member
    rcases member with earlier | here | later
    · obtain ⟨before, between, rfl⟩ := List.append_of_mem earlier
      rw [List.append_assoc] at split
      have superseded := (history.isCurrent_of_split split).mp secondCurrent (.submit first)
        (by simp)
      exact absurd same superseded
    · exact (Event.submit.inj here).symm
    · exact absurd same.symm (unharmed _ later)

/-- A renderer that sets the epoch of the pool to what it was at first. -/
def meddling : Renderer (Desk Unit) := fun _ => do
  Holds.update fun pool : Pool => pool.setEpoch 0
  return .ok []

/-- What happens to a pool that a typesetter meddles with, and that is closed before the last
submission. -/
def bustling : List Event × Desk Unit :=
  let slots : Text × Text := ("preview".toList, "list".toList)
  let opened : Desk Unit := { cache := default, pool := ofWorkers 4, pooled := true, outside := () }
  let first := (Pool.submit slots.2 opened).2
  let second := (Pool.submit slots.1 first).2
  let answer := Pool.respond meddling (opened.pool.issue slots.2).1 ⟨"x".toList, false⟩ second
  let third := (Pool.submit slots.1 answer.2).2
  let fourth := (Pool.submit slots.2 third).2
  let closed := (Holds.update Pool.close fourth).2
  ([ .submit (opened.pool.issue slots.2).1, .submit (first.pool.issue slots.1).1, .setEpoch 0
   , .finish answer.1, .submit (answer.2.pool.issue slots.1).1
   , .submit (third.pool.issue slots.2).1, .shutDown, .submit (closed.pool.issue slots.1).1 ],
    (Pool.submit slots.1 closed).2)

theorem latest_wins_bustling :
    bustling.2.pool.isCurrent ⟨1, 0, "list".toList⟩ = false ∧
      bustling.2.pool.isCurrent ⟨3, 0, "preview".toList⟩ = false ∧
      bustling.2.pool.verdict? ⟨⟨4, 0, "list".toList⟩, default⟩ = some default := by
  have history : History bustling.1
      { cache := default, pool := ofWorkers 4, pooled := true, outside := () } bustling.2 :=
    .trans (.submit _ _) (.trans (.submit _ _) (.trans
      (.respond _ _ (.trans (.setEpoch 0 _) (.idle rfl)))
      (.trans (.submit _ _) (.trans (.submit _ _) (.trans (.shutDown _) (.submit _ _))))))
  obtain ⟨responses, -⟩ := latest_wins history
  have first := (responses [] ⟨1, 0, "list".toList⟩ (bustling.1.drop 1) rfl).1
  have third := (responses (bustling.1.take 4) ⟨3, 0, "preview".toList⟩ (bustling.1.drop 5) rfl).1
  have fourth := (responses (bustling.1.take 5) ⟨4, 0, "list".toList⟩ (bustling.1.drop 6) rfl).2
  refine ⟨Bool.eq_false_iff.mpr (mt first.mp (by decide)),
    Bool.eq_false_iff.mpr (mt third.mp (by decide)), (fourth default).trans (by decide)⟩

end FormulaRepair.Pool
