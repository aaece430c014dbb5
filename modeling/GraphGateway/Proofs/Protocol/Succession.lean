/-
Actions in turn.

What comes of a list of actions is worked out from what comes of each: it is told for the statements
that were executed before it, those of the actions in front of it among them. `Server.handleAll`
takes lines as they arrive, each at its own time, and keeps what is answered to each.
-/
import GraphGateway.Proofs.Protocol.Reply
import GraphGateway.Protocol.Stream

namespace GraphGateway.Protocol

variable {α β : Type}

/-- What comes of actions that are taken for values one after another. -/
def Effect.inTurn (effect : List String → β → Effect α) : List String → List β → Effect (List α)
  | _, [] => { value := [] }
  | earlier, b :: bs =>
    let first := effect earlier b
    let others := inTurn effect (earlier ++ first.statements) bs
    { value := first.value :: others.value
      counted := first.counted + others.counted
      statements := first.statements ++ others.statements }

theorem Effect.length_inTurn (effect : List String → β → Effect α) (earlier : List String)
    (bs : List β) : (inTurn effect earlier bs).value.length = bs.length := by
  induction bs generalizing earlier with
  | nil => rfl
  | cons b bs ih => simp [inTurn, ih]

/-- Actions in turn have the effects of each in turn. -/
theorem Serving.mapM_has {action : β → Serving α} {effect : List String → β → Effect α}
    (h : ∀ earlier b, (action b).Has earlier (effect earlier b)) (earlier : List String)
    (bs : List β) : (bs.mapM action).Has earlier (Effect.inTurn effect earlier bs) := by
  induction bs generalizing earlier with
  | nil => exact Serving.Gives.pure [] earlier
  | cons b bs ih =>
    have hothers := ih (earlier ++ (effect earlier b).statements)
    rw [List.mapM_cons]
    exact (h earlier b).bind (.of_eq (Stats.add_zero _) (hothers.before (Serving.Gives.pure _ _)))

namespace Server

/-- Handles lines as they arrive, each at its own time. -/
def handleAll (service : Service) (arrivals : List Arrival) : Serving (List (Option Response)) :=
  arrivals.mapM fun (now, line) => handleBytes service now line

/-- What comes of lines as they arrive. -/
def arrivalsEffect (service : Service) (earlier : List String) (arrivals : List Arrival) :
    Effect (List (Option Response)) :=
  .inTurn (fun earlier (now, line) => lineEffect service now earlier line) earlier arrivals

theorem handleAll_has (service : Service) (earlier : List String) (arrivals : List Arrival) :
    (handleAll service arrivals).Has earlier (arrivalsEffect service earlier arrivals) :=
  Serving.mapM_has (fun earlier (now, line) => handleBytes_has service now earlier line) earlier
    arrivals

end Server

end GraphGateway.Protocol
