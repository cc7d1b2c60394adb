import Std.Time.DateTime.Timestamp
import WithdrawalCascade.Entities

/-!
# The system clock

The clock that a cascade reads outside of rehearsals.
-/

namespace WithdrawalCascade

namespace Instant

/-- Whether an instant lies between two others, ends included. -/
def isBetween (instant earliest latest : Instant) : Bool :=
  earliest.millis ≤ instant.millis && instant.millis ≤ latest.millis

end Instant

namespace SystemClock

/-- Reads the time of the system. -/
def now : IO Instant := do
  let timestamp ← Std.Time.Timestamp.now
  return ⟨timestamp.toMillisecondsSinceUnixEpoch.val⟩

end SystemClock
end WithdrawalCascade
