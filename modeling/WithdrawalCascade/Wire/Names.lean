import WithdrawalCascade.Context
import WithdrawalCascade.Json.Reader
import WithdrawalCascade.Policy
import WithdrawalCascade.Status

/-!
# Names on the wire

Kinds, reasons and policies are handed over by name.
-/

namespace WithdrawalCascade

namespace EntityKind

/-- The form in which a kind is handed over. -/
def toJson (kind : EntityKind) : Json :=
  .string kind.name

/-- Reads the name of a kind. -/
def read : Reader EntityKind :=
  Reader.oneOf (all.map fun kind => (kind.name, kind))

end EntityKind

namespace BlockingReason

/-- The form in which a reason is handed over. -/
def toJson (reason : BlockingReason) : Json :=
  .string reason.name

/-- Reads the name of a reason. -/
def read : Reader BlockingReason :=
  Reader.oneOf (all.map fun reason => (reason.name, reason))

end BlockingReason

namespace WithdrawalReason

/-- The form in which a reason is handed over. -/
def toJson (reason : WithdrawalReason) : Json :=
  .string reason.name

/-- Reads the name of a reason. -/
def read : Reader WithdrawalReason :=
  Reader.oneOf (all.map fun reason => (reason.name, reason))

end WithdrawalReason

namespace MissingBookingPolicy

/-- Reads the word of a policy, which here has to be exact. -/
def read : Reader MissingBookingPolicy :=
  Reader.oneOf (all.map fun policy => (policy.word, policy))

end MissingBookingPolicy

namespace Config

/-- The fields of the settings. -/
def fields (medium : Medium) (levels : Nat) : List (Reader.Field Config) :=
  [.of "on_missing_booking" .defaulted (MissingBookingPolicy.read medium levels)
    fun config policy => { config with onMissingBooking := policy }]

/-- Reads settings. -/
def read : Reader Config := fun medium levels =>
  Reader.record medium levels (fields medium (levels - 1)) {}

end Config

namespace EntityId

/-- The form in which an identifier is handed over. -/
def toJson (id : EntityId) : Json :=
  .string id.render

end EntityId
end WithdrawalCascade
