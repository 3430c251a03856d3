import FormulaRepair.CommandLine.Run
import FormulaRepair.Proofs.Desk.Undisturbed

/-! # The components outside of a command

The typesetter and the transport of a command work on a world of their own. Put to work from a desk they
leave everything else on it alone, and so do the services that are asked through the transport, however
often they are tried.
-/

namespace FormulaRepair

section Rules

variable {state α : Type} {allowed : state → state → Prop} [IsPreorder state allowed]

/-- Trying again does what the call and the pauses do. By induction on the attempts that remain. -/
theorem within_retry {pause : Float → StateM state Unit}
    {call : StateM state (Except CallProblem α)} (pauses : ∀ seconds, Within allowed (pause seconds))
    (calls : Within allowed call) (limit : Retry.Limit) (what : Text) :
    Within allowed (Retry.run limit what pause call) := by
  have tries (attempt : Nat) (last : CallProblem) (remaining : Nat) :
      Within allowed (Retry.runFrom limit.bound what pause call attempt last remaining) := by
    induction remaining generalizing attempt last with
    | zero => exact within_pure _
    | succ remaining ih =>
      refine within_bind calls fun outcome => ?_
      split
      · exact within_pure _
      · exact within_pure _
      · split
        · exact within_pure _
        · exact within_pure _
        · exact within_bind (pauses _) fun _ => ih _ _
  exact tries 0 default limit.attempts

/-- A repair does what the transport does for the calls and the pauses. -/
theorem Service.within_repair {transport : Transport state}
    (chats : ∀ call, Within allowed (transport.chat call))
    (posts : ∀ call, Within allowed (transport.post call))
    (pauses : ∀ seconds, Within allowed (transport.pause seconds)) (service : Service)
    (request : RepairRequest) : Within allowed (service.repair transport request) := by
  cases service with
  | chat service =>
    exact within_bind (within_retry pauses (chats _) _ _) fun _ => within_pure _
  | hosted service =>
    refine within_bind (within_retry pauses ?_ _ _) fun _ => within_pure _
    exact within_bind (posts _) fun _ => within_pure _

end Rules

/-- What checking makes of the outcomes of a typesetter. -/
def Typesetter.checkedOutcome (outcome : Sample → Except Fault Text) (sample : Sample) :
    Except Refusal Text :=
  ((Typesetter.checked fun sample => pure (outcome sample) : Renderer Unit) sample ()).1

namespace CommandLine

variable {Outside : Type}

open Desk

theorem onlyOutside_fromDesk {α : Type} (work : StateM Outside α) :
    Within OnlyOutside (fromDesk work) := fun _ => rfl

/-- A typesetter whose outcome depends on the sample alone makes a renderer of which the same holds. -/
theorem plain_rendererOf {surroundings : Surroundings Outside} {outcome : Sample → Except Fault Text}
    (settled : ∀ sample world, (surroundings.typesetter sample world).1 = outcome sample) :
    (rendererOf surroundings).Plain (Typesetter.checkedOutcome outcome) where
  outcome_eq sample desk := by
    simp only [rendererOf, Typesetter.checkedOutcome, Typesetter.checked]
    cases Braces.check sample.latex with
    | error problem => rfl
    | ok matched =>
      have same := settled sample desk.outside
      exact congrArg Refusal.ofOutcome same
  outside sample := by
    simp only [rendererOf, Typesetter.checked]
    cases Braces.check sample.latex with
    | error problem => exact within_pure _
    | ok matched => exact within_bind (onlyOutside_fromDesk _) fun _ => within_pure _

/-- So does a command repair formulas, whatever its service answers. -/
theorem plain_repairerOf {surroundings : Surroundings Outside} {outcome : Sample → Except Fault Text}
    (settled : ∀ sample world, (surroundings.typesetter sample world).1 = outcome sample)
    (settings : Settings) (service : Service) :
    (repairerOf surroundings settings service).Plain (Typesetter.checkedOutcome outcome) where
  renderer := plain_rendererOf settled
  provides := Service.within_repair (fun _ => onlyOutside_fromDesk _)
    (fun _ => onlyOutside_fromDesk _) (fun _ => onlyOutside_fromDesk _) service

end CommandLine

end FormulaRepair
