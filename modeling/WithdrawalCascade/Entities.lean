import WithdrawalCascade.EntityId.Basic

/-!
# What is withdrawn

The little that a cascade has to know of the entities that its collaborators withdraw.
-/

namespace WithdrawalCascade

/-- A point in time, in milliseconds since the beginning of 1970. -/
structure Instant where
  millis : Int
  deriving DecidableEq, Repr

/-- A request for placement, as its withdrawer gives it back. -/
structure PlacementRequest where
  id : EntityId
  /-- Whether the request is withdrawn now. -/
  isWithdrawn : Bool
  deriving DecidableEq, Repr

/-- A further request for placement, as its withdrawer gives it back. -/
structure PlacementApplication where
  id : EntityId
  /-- Whether the request is withdrawn now. -/
  isWithdrawn : Bool
  deriving DecidableEq, Repr

/-- A booking. -/
structure Booking where
  id : EntityId
  /-- The premises that the booking is for. -/
  premisesId : EntityId
  /-- When the booking was cancelled, if it was. -/
  cancelledAt : Option Instant
  deriving DecidableEq, Repr

/-- What is written down when a booking is cancelled. -/
structure Cancellation where
  /-- When the cancellation takes effect. -/
  cancelledAt : Instant
  /-- The reason that a user chose; an automatic cancellation has none. -/
  reasonId : Option EntityId
  /-- Notes in free text. -/
  notes : String
  deriving DecidableEq, Repr

end WithdrawalCascade
