import WithdrawalCascade.Cascade.Dialogue

/-!
# Scripted worlds

A script says beforehand how each call is answered, by the identifier or the booking it is about
and by nothing else.  The clock moves on by the same step at every reading.
-/

namespace WithdrawalCascade
namespace StandIn

/-- How calls are answered. -/
structure Script where
  /-- Answers to withdrawals of requests that came out of an application. -/
  requests : EntityId → Except Fault (Outcome PlacementRequest)
  /-- Answers to withdrawals of further requests. -/
  applications : EntityId → Except Fault (Outcome PlacementApplication)
  /-- Answers to look-ups of bookings. -/
  finds : EntityId → Except Fault (Option Booking)
  /-- Answers to cancellations of a booking. -/
  cancels : Booking → Except Fault (Outcome Booking)
  /-- How far the clock moves on at every reading, in milliseconds. -/
  clockStep : Int

namespace Script

/-- How the script answers a call, where the state is the next reading of the clock. -/
def answer (script : Script) : (call : Call) → Instant → call.Reply × Instant
  | .withdrawPlacementRequest withdrawal, next => (script.requests withdrawal.id, next)
  | .withdrawPlacementApplication withdrawal, next => (script.applications withdrawal.id, next)
  | .findBooking id, next => (script.finds id, next)
  | .now, next => (next, ⟨next.millis + script.clockStep⟩)
  | .cancelBooking booking _ _, next => (script.cancels booking, next)
  | .report _, next => ((), next)

/-- The world of a script. -/
def world (script : Script) : World Instant :=
  ⟨script.answer⟩

end Script

/-- A script written down in tables.  What a table does not list succeeds: a withdrawal withdraws,
a booking is found under the identifier that was looked up, and a cancellation cancels. -/
structure ScriptTables where
  requests : List (EntityId × Except Fault (Outcome Unit)) := []
  applications : List (EntityId × Except Fault (Outcome Unit)) := []
  finds : List (EntityId × Except Fault (Option Booking)) := []
  /-- Answers to cancellations, by the identifier of the booking that was found. -/
  cancels : List (EntityId × Except Fault (Outcome Unit)) := []
  clockStep : Int := 1000

namespace ScriptTables

/-- The booking that a look-up finds if the table does not say otherwise. -/
def defaultBooking (id : EntityId) : Booking :=
  ⟨id, EntityId.ofNat 0, none⟩

/-- The answer that a table lists for `id`, with `entity` in a success. -/
def listed {α : Type} (table : List (EntityId × Except Fault (Outcome Unit))) (id : EntityId)
    (entity : α) : Except Fault (Outcome α) :=
  ((table.lookup id).getD (.ok (.success ()))).map fun outcome => outcome.map fun _ => entity

/-- The script of some tables. -/
def script (tables : ScriptTables) : Script where
  requests id := listed tables.requests id ⟨id, true⟩
  applications id := listed tables.applications id ⟨id, true⟩
  finds id := (tables.finds.lookup id).getD (.ok (some (defaultBooking id)))
  cancels booking := listed tables.cancels booking.id booking
  clockStep := tables.clockStep

end ScriptTables
end StandIn
end WithdrawalCascade
