import WithdrawalCascade.Context
import WithdrawalCascade.Wire.Node

/-!
# Sample trees

Short ways to write down trees for rehearsals, and shapes, which are such trees without
identifiers.
-/

namespace WithdrawalCascade
namespace Sample

/-- A node that blocks nothing, where one flag says both whether it can be withdrawn and whether
the user may do so. -/
def node (id : EntityId) (kind : EntityKind) (withdrawable : Bool) (children : List Node) : Node :=
  ⟨kind, id, Status.new withdrawable withdrawable, children⟩

/-- A node that can be withdrawn, but not by the user, and that blocks because of an arrival. -/
def blockingNode (id : EntityId) (kind : EntityKind) (children : List Node) : Node :=
  ⟨kind, id, (Status.new true false).blocking .arrivalRecordedInCas1, children⟩

/-- The context in which the system withdraws `root`. -/
def systemContext (root : Node) : Context :=
  Context.bySystem root.kind root.id

/-- A tree without identifiers.  A node without a flag blocks. -/
structure Shape where
  kind : EntityKind
  withdrawable : Option Bool
  children : List Shape := []
  deriving Repr

mutual

/-- The tree of a shape.  Identifiers are given out in pre-order from `next` on; the first one that
is still free comes back with the tree. -/
def Shape.build (next : Nat) : Shape → Node × Nat
  | ⟨kind, withdrawable, children⟩ =>
    let (children, free) := Shape.buildAll (next + 1) children
    match withdrawable with
    | some flag => (node (EntityId.ofNat next) kind flag children, free)
    | none => (blockingNode (EntityId.ofNat next) kind children, free)

/-- The trees of some shapes. -/
def Shape.buildAll (next : Nat) : List Shape → List Node × Nat
  | [] => ([], next)
  | shape :: rest =>
    let (first, free) := shape.build next
    let (others, free) := Shape.buildAll free rest
    (first :: others, free)

end

namespace Shape

/-- The tree of a shape, with identifiers from one on. -/
def toNode (shape : Shape) : Node :=
  (shape.build 1).1

/-- The fields of a shape, whose children `children` reads. -/
def fields (medium : Medium) (levels : Nat)
    (children : Document → Except ReadError (List Shape)) : List (Reader.Field Shape) :=
  [.of "t" .required (EntityKind.read medium levels) fun shape kind => { shape with kind := kind },
    .of "w" .nullable (Reader.nullable Reader.bool medium levels)
      fun shape flag => { shape with withdrawable := flag },
    .of "c" .defaulted children fun shape children => { shape with children := children }]

/-- Reads a shape. -/
def read (medium : Medium) : Nat → Document → Except ReadError Shape
  | 0 => Reader.record medium 0 [] ⟨.application, none, []⟩
  | 1 => Reader.record medium 1
      (fields medium 0 (Reader.list 0 fun document => .error document.refusal))
      ⟨.application, none, []⟩
  | levels + 2 => Reader.record medium (levels + 2)
      (fields medium (levels + 1) (Reader.list (levels + 1) (read medium levels)))
      ⟨.application, none, []⟩

end Shape
end Sample
end WithdrawalCascade
