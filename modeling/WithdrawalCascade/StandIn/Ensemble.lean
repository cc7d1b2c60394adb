import WithdrawalCascade.StandIn.Bookings
import WithdrawalCascade.StandIn.Withdrawer

/-!
# The ensemble

All stand-ins together are a world in which a cascade can be rehearsed: both withdrawers, the
bookings, a reporter that keeps the failures, and a clock that stands still.  The service for
bookings can be made unreachable; then it keeps nothing.
-/

namespace WithdrawalCascade
namespace StandIn

/-- The stand-ins for everyone that a cascade calls on. -/
structure Ensemble where
  requests : Withdrawer PlacementRequest := {}
  applications : Withdrawer PlacementApplication := {}
  bookings : Bookings := {}
  /-- Whether the service for bookings can be reached. -/
  bookingsReachable : Bool := true
  /-- The failures that were reported, the earliest first. -/
  failures : List Failure := []
  /-- Where the clock stands. -/
  clock : Instant := ⟨0⟩
  deriving Repr

namespace Ensemble

/-- How the ensemble answers a call. -/
def answer : (call : Call) → Ensemble → call.Reply × Ensemble
  | .withdrawPlacementRequest withdrawal, ensemble =>
    let (reply, requests) := ensemble.requests.answer withdrawal ⟨withdrawal.id, true⟩
    (reply, { ensemble with requests })
  | .withdrawPlacementApplication withdrawal, ensemble =>
    let (reply, applications) := ensemble.applications.answer withdrawal ⟨withdrawal.id, true⟩
    (reply, { ensemble with applications })
  | .findBooking id, ensemble =>
    if ensemble.bookingsReachable then
      let (reply, bookings) := ensemble.bookings.find id
      (reply, { ensemble with bookings })
    else (.error Bookings.unreachable, ensemble)
  | .now, ensemble => (ensemble.clock, ensemble)
  | .cancelBooking booking cancellation context, ensemble =>
    if ensemble.bookingsReachable then
      let (reply, bookings) := ensemble.bookings.cancel booking cancellation context
      (reply, { ensemble with bookings })
    else (.error Bookings.unreachable, ensemble)
  | .report failure, ensemble =>
    ((), { ensemble with failures := ensemble.failures ++ [failure] })

/-- The world of stand-ins. -/
def world : World Ensemble :=
  ⟨answer⟩

/-- What the stand-ins kept. -/
structure Kept where
  requests : List Withdrawal := []
  applications : List Withdrawal := []
  lookups : List EntityId := []
  cancellations : List KeptCancellation := []
  failures : List Failure := []
  deriving DecidableEq, Repr

/-- All that the stand-ins kept so far. -/
def kept (ensemble : Ensemble) : Kept :=
  ⟨ensemble.requests.calls, ensemble.applications.calls, ensemble.bookings.lookups,
    ensemble.bookings.cancellations, ensemble.failures⟩

namespace Kept

/-- What was kept on top of what had been kept `earlier`. -/
def since (later earlier : Kept) : Kept :=
  ⟨later.requests.drop earlier.requests.length,
    later.applications.drop earlier.applications.length,
    later.lookups.drop earlier.lookups.length,
    later.cancellations.drop earlier.cancellations.length,
    later.failures.drop earlier.failures.length⟩

end Kept

/-- How the collaborators show themselves in a diagnostic print, which tells nothing of them. -/
def summary : String :=
  "CascadeCollaborators \x7b .. \x7d"

end Ensemble
end StandIn
end WithdrawalCascade
