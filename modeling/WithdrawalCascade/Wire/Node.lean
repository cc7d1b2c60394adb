import WithdrawalCascade.Node
import WithdrawalCascade.Wire.Names

/-!
# Nodes on the wire

A tree is handed over as nested records.  A record is written as an object with all its fields in
one order, and it is read from an object in any order, or from an array in that one order.
-/

namespace WithdrawalCascade

namespace Status

/-- The form in which a status is handed over. -/
def toJson (status : Status) : Json :=
  .object
    [("withdrawable", .bool status.withdrawable),
      ("user_may_directly_withdraw", .bool status.mayDirectlyWithdraw),
      ("block_ancestor_withdrawals", .bool status.blocksAncestors),
      ("blocking_reason", Json.ofOption BlockingReason.toJson status.blockingReason)]

/-- The fields of a status. -/
def fields (medium : Medium) (levels : Nat) : List (Reader.Field Status) :=
  [.of "withdrawable" .required (Reader.bool medium levels)
      fun status flag => { status with withdrawable := flag },
    .of "user_may_directly_withdraw" .required (Reader.bool medium levels)
      fun status flag => { status with mayDirectlyWithdraw := flag },
    .of "block_ancestor_withdrawals" .defaulted (Reader.bool medium levels)
      fun status flag => { status with blocksAncestors := flag },
    .of "blocking_reason" .defaulted (Reader.nullable BlockingReason.read medium levels)
      fun status reason => { status with blockingReason := reason }]

/-- Reads a status. -/
def read : Reader Status := fun medium levels =>
  Reader.record medium levels (fields medium (levels - 1)) (new false false)

end Status

mutual

/-- The form in which a node is handed over. -/
def Node.toJson : Node → Json
  | ⟨kind, id, status, children⟩ =>
    .object
      [("entity_type", kind.toJson), ("entity_id", id.toJson), ("status", status.toJson),
        ("children", .array (Forest.toJson children))]

/-- The forms of some nodes. -/
def Forest.toJson : List Node → List Json
  | [] => []
  | node :: rest => node.toJson :: Forest.toJson rest

end

namespace Node

/-- The fields of a node, whose children `children` reads. -/
def fields (medium : Medium) (levels : Nat) (children : Document → Except ReadError (List Node)) :
    List (Reader.Field Node) :=
  [.of "entity_type" .required (EntityKind.read medium levels)
      fun node kind => { node with kind := kind },
    .of "entity_id" .required (Reader.entityId medium levels)
      fun node id => { node with id := id },
    .of "status" .required (Status.read medium levels)
      fun node status => { node with status := status },
    .of "children" .defaulted children
      fun node children => { node with children := children }]

/-- What a node is read on top of.  Only its lack of children can stay. -/
def blank : Node :=
  ⟨.application, EntityId.ofNat 0, Status.new false false, []⟩

/-- Reads a node.  Each node takes two levels, one for itself and one for the list of its
children. -/
def read (medium : Medium) : Nat → Document → Except ReadError Node
  | 0 => Reader.record medium 0 [] blank
  | 1 => Reader.record medium 1
      (fields medium 0 (Reader.list 0 fun document => .error document.refusal)) blank
  | levels + 2 => Reader.record medium (levels + 2)
      (fields medium (levels + 1) (Reader.list (levels + 1) (read medium levels))) blank

end Node
end WithdrawalCascade
