import WithdrawalCascade.Cascade.Dialogue

/-!
# A stand-in that holds bookings

It knows the bookings that were added to it, keeps every look-up and every cancellation, in order,
and cancels with success unless it was told otherwise for the booking at hand.  A cancellation does
not change the bookings it knows.
-/

namespace WithdrawalCascade
namespace StandIn

/-- A cancellation that was asked for. -/
structure KeptCancellation where
  bookingId : EntityId
  cancellation : Cancellation
  context : Context
  deriving DecidableEq, Repr

/-- A stand-in for the service that holds bookings. -/
structure Bookings where
  /-- The bookings it knows, the latest first. -/
  known : List (EntityId × Booking) := []
  /-- The outcomes of cancellations it was told of, the latest first. -/
  cancelOutcomes : List (EntityId × Outcome Booking) := []
  /-- The identifiers that were looked up, the earliest first. -/
  lookups : List EntityId := []
  /-- The cancellations that were asked for, the earliest first. -/
  cancellations : List KeptCancellation := []
  deriving Repr

namespace Bookings

/-- The stand-in that also knows a booking under `id`, which has not been cancelled. -/
def withBooking (standIn : Bookings) (id premisesId : EntityId) : Bookings :=
  { standIn with known := (id, ⟨id, premisesId, none⟩) :: standIn.known }

/-- The stand-in that answers cancellations of the booking `id` with `outcome`. -/
def withCancelOutcome (standIn : Bookings) (id : EntityId) (outcome : Outcome Booking) :
    Bookings :=
  { standIn with cancelOutcomes := (id, outcome) :: standIn.cancelOutcomes }

/-- Looks a booking up and keeps the look-up. -/
def find (standIn : Bookings) (id : EntityId) : Except Fault (Option Booking) × Bookings :=
  (.ok (standIn.known.lookup id), { standIn with lookups := standIn.lookups ++ [id] })

/-- What a cancellation of `booking` is answered with. -/
def cancelReply (standIn : Bookings) (booking : Booking) (cancellation : Cancellation) :
    Outcome Booking :=
  (standIn.cancelOutcomes.lookup booking.id).getD
    (.success { booking with cancelledAt := some cancellation.cancelledAt })

/-- Cancels a booking and keeps the cancellation. -/
def cancel (standIn : Bookings) (booking : Booking) (cancellation : Cancellation)
    (context : Context) : Except Fault (Outcome Booking) × Bookings :=
  (.ok (standIn.cancelReply booking cancellation),
    { standIn with
      cancellations := standIn.cancellations ++ [⟨booking.id, cancellation, context⟩] })

/-- What every call is answered with when the store behind the service cannot be reached. -/
def unreachable : Fault :=
  .infrastructure "connection refused"

end Bookings
end StandIn
end WithdrawalCascade
