import WithdrawalCascade.Context
import WithdrawalCascade.Fault
import WithdrawalCascade.Node

/-!
# Outcomes and failures

A collaborator answers every request to withdraw with an outcome.  An outcome other than success is
a failure of that one entity: it is reported, and it neither stops the cascade nor changes what
comes of it.
-/

namespace WithdrawalCascade

/-- Why an entity could not be withdrawn. -/
inductive FailureKind where
  /-- The collaborator refused. -/
  | unauthorised
  /-- The collaborator did not find the entity. -/
  | notFound
  /-- The collaborator rejected the withdrawal with a text. -/
  | validation (text : String)
  /-- The collaborator could not be reached or gave no answer. -/
  | infrastructure (text : String)
  deriving DecidableEq, Repr

namespace FailureKind

/-- The text that people see. -/
def display : FailureKind → String
  | unauthorised => "Unauthorised"
  | notFound => "NotFound"
  | validation text | infrastructure text => text

/-- The failure that a fault of a collaborator amounts to. -/
def ofFault (fault : Fault) : FailureKind :=
  .infrastructure fault.message

end FailureKind

/-- What came of one request to withdraw. -/
inductive Outcome (α : Type) where
  /-- The entity was withdrawn, and is now like this. -/
  | success (entity : α)
  /-- The actor may not withdraw the entity. -/
  | unauthorised
  /-- The entity does not exist. -/
  | notFound
  /-- The entity cannot be withdrawn in its state. -/
  | validation (text : String)
  deriving DecidableEq, Repr

namespace Outcome

variable {α β : Type}

/-- Whether the entity was withdrawn. -/
def isSuccess : Outcome α → Bool
  | success _ => true
  | _ => false

/-- The failure to report, none for a success. -/
def failure? : Outcome α → Option FailureKind
  | success _ => none
  | unauthorised => some .unauthorised
  | notFound => some .notFound
  | validation text => some (.validation text)

/-- The outcome with another entity in a success. -/
def map (f : α → β) : Outcome α → Outcome β
  | success entity => success (f entity)
  | unauthorised => unauthorised
  | notFound => notFound
  | validation text => validation text

end Outcome

/-- The failure to report for the answer of a collaborator, if any.  A collaborator that cannot
answer is reported like any other failure. -/
def failureOf? {α : Type} : Except Fault (Outcome α) → Option FailureKind
  | .ok outcome => outcome.failure?
  | .error fault => some (FailureKind.ofFault fault)

/-- One entity that could not be withdrawn. -/
structure Failure where
  /-- The kind of the entity. -/
  entityKind : EntityKind
  /-- The identifier of the entity. -/
  entityId : EntityId
  /-- The kind of the entity whose withdrawal started the cascade. -/
  triggeringKind : EntityKind
  /-- The identifier of the entity whose withdrawal started the cascade. -/
  triggeringId : EntityId
  /-- What went wrong. -/
  kind : FailureKind
  deriving DecidableEq, Repr

namespace Failure

/-- The failure of `node` in a cascade. -/
def of (node : Node) (context : Context) (kind : FailureKind) : Failure :=
  ⟨node.kind, node.id, context.triggeringKind, context.triggeringId, kind⟩

end Failure
end WithdrawalCascade
