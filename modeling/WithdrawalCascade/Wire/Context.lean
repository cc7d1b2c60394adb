import WithdrawalCascade.Context
import WithdrawalCascade.Wire.Names

/-!
# Contexts on the wire

The context of a cascade and the user in it, as records.
-/

namespace WithdrawalCascade

namespace User

/-- The form in which a user is handed over. -/
def toJson (user : User) : Json :=
  .object [("id", user.id.toJson), ("username", .string user.username)]

/-- The fields of a user. -/
def fields (medium : Medium) (levels : Nat) : List (Reader.Field User) :=
  [.of "id" .required (Reader.entityId medium levels) fun user id => { user with id := id },
    .of "username" .required (Reader.string medium levels)
      fun user username => { user with username := username }]

/-- Reads a user. -/
def read : Reader User := fun medium levels =>
  Reader.record medium levels (fields medium (levels - 1)) ⟨EntityId.ofNat 0, ""⟩

end User

namespace Context

/-- The form in which a context is handed over. -/
def toJson (context : Context) : Json :=
  .object
    [("triggering_user", Json.ofOption User.toJson context.triggeringUser),
      ("triggering_entity_type", context.triggeringKind.toJson),
      ("triggering_entity_id", context.triggeringId.toJson)]

/-- The fields of a context.  An object may leave out the user. -/
def fields (medium : Medium) (levels : Nat) : List (Reader.Field Context) :=
  [.of "triggering_user" .nullable (Reader.nullable User.read medium levels)
      fun context user => { context with triggeringUser := user },
    .of "triggering_entity_type" .required (EntityKind.read medium levels)
      fun context kind => { context with triggeringKind := kind },
    .of "triggering_entity_id" .required (Reader.entityId medium levels)
      fun context id => { context with triggeringId := id }]

/-- Reads a context. -/
def read : Reader Context := fun medium levels =>
  Reader.record medium levels (fields medium (levels - 1)) ⟨none, .application, EntityId.ofNat 0⟩

end Context
end WithdrawalCascade
