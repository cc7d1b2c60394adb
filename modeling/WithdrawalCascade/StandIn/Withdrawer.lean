import WithdrawalCascade.Cascade.Dialogue

/-!
# A stand-in that withdraws

For rehearsals there are stand-ins for the collaborators of a cascade.  This one stands in for
either withdrawer of requests for placement.  It keeps every call, in order, and succeeds unless it
was told otherwise for the identifier at hand; being told of a fault outweighs being told of an
outcome, and of two outcomes for one identifier the later stands.
-/

namespace WithdrawalCascade
namespace StandIn

/-- A stand-in for a withdrawer of `α`. -/
structure Withdrawer (α : Type) where
  /-- The outcomes it was told of, the latest first. -/
  outcomes : List (EntityId × Outcome α) := []
  /-- The texts of the faults it was told of, the latest first. -/
  faults : List (EntityId × String) := []
  /-- The calls it got, the earliest first. -/
  calls : List Withdrawal := []
  deriving Repr

namespace Withdrawer

variable {α : Type}

/-- The stand-in that answers calls for `id` with `outcome`. -/
def withOutcome (standIn : Withdrawer α) (id : EntityId) (outcome : Outcome α) : Withdrawer α :=
  { standIn with outcomes := (id, outcome) :: standIn.outcomes }

/-- The stand-in that cannot answer calls for `id`, for the reason in `text`. -/
def withFault (standIn : Withdrawer α) (id : EntityId) (text : String) : Withdrawer α :=
  { standIn with faults := (id, text) :: standIn.faults }

/-- What calls for `id` are answered with.  In a success of its own accord the stand-in gives back
`entity`. -/
def reply (standIn : Withdrawer α) (id : EntityId) (entity : α) : Except Fault (Outcome α) :=
  match standIn.faults.lookup id with
  | some text => .error (.infrastructure text)
  | none => .ok ((standIn.outcomes.lookup id).getD (.success entity))

/-- Answers a call and keeps it. -/
def answer (standIn : Withdrawer α) (withdrawal : Withdrawal) (entity : α) :
    Except Fault (Outcome α) × Withdrawer α :=
  (standIn.reply withdrawal.id entity,
    { standIn with calls := standIn.calls ++ [withdrawal] })

end Withdrawer
end StandIn
end WithdrawalCascade
