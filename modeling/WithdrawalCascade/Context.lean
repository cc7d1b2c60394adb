import WithdrawalCascade.EntityId.Basic
import WithdrawalCascade.EntityKind

/-!
# Who and what triggered a withdrawal

The context of a cascade is handed unchanged to everyone who takes part in it, so that what they
write down can explain why an entity was withdrawn.
-/

namespace WithdrawalCascade

/-- A user who acts on an entity. -/
structure User where
  id : EntityId
  /-- The login name. -/
  username : String
  deriving DecidableEq, Repr

/-- Why a cascade runs. -/
structure Context where
  /-- The user who withdrew the first entity, if a user did. -/
  triggeringUser : Option User
  /-- The kind of the entity whose withdrawal started the cascade. -/
  triggeringKind : EntityKind
  /-- The identifier of that entity. -/
  triggeringId : EntityId
  deriving DecidableEq, Repr

namespace Context

/-- The context of a withdrawal that `user` asked for. -/
def byUser (user : User) (kind : EntityKind) (id : EntityId) : Context :=
  ⟨some user, kind, id⟩

/-- The context of a withdrawal that the system started, such as an expiry. -/
def bySystem (kind : EntityKind) (id : EntityId) : Context :=
  ⟨none, kind, id⟩

/-- The notes that are kept with a booking that the cascade cancels. -/
def cancellationNotes (context : Context) : String :=
  "Automatically withdrawn as " ++ context.triggeringKind.label ++ " was withdrawn"

end Context

/-- Why a user withdraws a request for placement.  A cascade never gives a reason. -/
inductive WithdrawalReason where
  | duplicatePlacementRequest
  | alternativeProvisionIdentified
  | changeInCircumstances
  | changeInReleaseDecision
  | errorInPlacementRequest
  | withdrawnByPp
  deriving DecidableEq, Repr

namespace WithdrawalReason

/-- The name of a reason. -/
def name : WithdrawalReason → String
  | duplicatePlacementRequest => "DuplicatePlacementRequest"
  | alternativeProvisionIdentified => "AlternativeProvisionIdentified"
  | changeInCircumstances => "ChangeInCircumstances"
  | changeInReleaseDecision => "ChangeInReleaseDecision"
  | errorInPlacementRequest => "ErrorInPlacementRequest"
  | withdrawnByPp => "WithdrawnByPp"

/-- All reasons, in the order in which messages list them. -/
def all : List WithdrawalReason :=
  [duplicatePlacementRequest, alternativeProvisionIdentified, changeInCircumstances,
    changeInReleaseDecision, errorInPlacementRequest, withdrawnByPp]

end WithdrawalReason
end WithdrawalCascade
