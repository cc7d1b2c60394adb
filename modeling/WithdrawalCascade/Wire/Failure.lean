import WithdrawalCascade.Failure
import WithdrawalCascade.Wire.Names

/-!
# Failures on the wire

The record of a failure as it is filed.  Kinds with a text are objects with one member and kinds
without are plain names, so that no text can make one kind look like another.
-/

namespace WithdrawalCascade

namespace FailureKind

/-- The form in which a kind of failure is handed over. -/
def toJson : FailureKind → Json
  | unauthorised => .string "Unauthorised"
  | notFound => .string "NotFound"
  | validation text => .object [("ValidationError", .string text)]
  | infrastructure text => .object [("Infrastructure", .string text)]

end FailureKind

namespace Failure

/-- The form in which a failure is handed over. -/
def toJson (failure : Failure) : Json :=
  .object
    [("entity_type", failure.entityKind.toJson),
      ("entity_id", failure.entityId.toJson),
      ("triggering_entity_type", failure.triggeringKind.toJson),
      ("triggering_entity_id", failure.triggeringId.toJson),
      ("kind", failure.kind.toJson)]

end Failure
end WithdrawalCascade
