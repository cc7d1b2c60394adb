/-!
# Kinds of entity

The four kinds of entity that a withdrawal can reach, the names they are handed over and logged by,
and the labels that staff see.
-/

namespace WithdrawalCascade

/-- A kind of entity that can take part in a cascade. -/
inductive EntityKind where
  /-- An application for supported accommodation. -/
  | application
  /-- A request for placement that came out of an assessed application. -/
  | placementRequest
  /-- A further request for placement made against an application. -/
  | placementApplication
  /-- A booking into a premises. -/
  | booking
  deriving DecidableEq, Repr

namespace EntityKind

/-- The name of a kind, in messages, logs and files. -/
def name : EntityKind → String
  | application => "Application"
  | placementRequest => "PlacementRequest"
  | placementApplication => "PlacementApplication"
  | booking => "Booking"

/-- The label of a kind in texts for staff.  The two kinds of request share one. -/
def label : EntityKind → String
  | application => "Application"
  | placementRequest | placementApplication => "Request for Placement"
  | booking => "Placement"

/-- All kinds, in the order in which messages list them. -/
def all : List EntityKind :=
  [application, placementRequest, placementApplication, booking]

instance : ToString EntityKind := ⟨name⟩

end EntityKind
end WithdrawalCascade
