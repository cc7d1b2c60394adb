import WithdrawalCascade.Node

/-!
# Blocking annotations

An entity that blocks keeps itself and all its ancestors from being withdrawn automatically.  One
pass over a tree, children before their parent, works out for every node whether its subtree holds
a blocking entity, and files the answer under the identifier of the node.  Where an identifier
comes up twice the answer filed last stands.
-/

namespace WithdrawalCascade

/-- For every node of one tree, whether its subtree holds a blocking entity, filed by identifier,
the latest entry first. -/
structure Annotations where
  entries : List (EntityId × Bool) := []
  deriving Repr

namespace Annotations

/-- Annotations of nothing. -/
def empty : Annotations := {}

/-- Files `blocked` under `id`. -/
def insert (annotations : Annotations) (id : EntityId) (blocked : Bool) : Annotations :=
  ⟨(id, blocked) :: annotations.entries⟩

/-- Whether the subtree of the entity `id` holds a blocking entity.  An entity that was not
annotated counts as blocked. -/
def isSubtreeBlocked (annotations : Annotations) (id : EntityId) : Bool :=
  (annotations.entries.lookup id).getD true

mutual

/-- Annotates the nodes under and including a node, and tells whether one of them blocks. -/
def visit (annotations : Annotations) : Node → Bool × Annotations
  | ⟨_, id, status, children⟩ =>
    let (blocked, annotations) := visitAll status.blocksAncestors annotations children
    (blocked, annotations.insert id blocked)

/-- Visits nodes one after the other, every one of them whatever the earlier ones say, and tells
whether `blocked` holds already or one of their subtrees holds a blocking entity. -/
def visitAll (blocked : Bool) (annotations : Annotations) : List Node → Bool × Annotations
  | [] => (blocked, annotations)
  | node :: rest =>
    let (below, annotations) := visit annotations node
    visitAll (blocked || below) annotations rest

end

/-- Annotates every node under and including `root`. -/
def compute (root : Node) : Annotations :=
  (visit empty root).2

end Annotations

/-! ## Blocking without a table -/

mutual

/-- Whether the node or one of its descendants blocks. -/
def Node.isSubtreeBlocked : Node → Bool
  | ⟨_, _, status, children⟩ => status.blocksAncestors || Forest.isBlocked children

/-- Whether a blocking entity stands anywhere under or among some nodes. -/
def Forest.isBlocked : List Node → Bool
  | [] => false
  | node :: rest => node.isSubtreeBlocked || Forest.isBlocked rest

end

namespace Annotations

mutual

/-- The pass tells of a node what plain recursion says, whatever has been filed before. -/
theorem visit_fst (annotations : Annotations) :
    (node : Node) → (visit annotations node).1 = node.isSubtreeBlocked
  | ⟨_, _, status, children⟩ => by
    simp [visit, Node.isSubtreeBlocked, visitAll_fst status.blocksAncestors annotations children]

theorem visitAll_fst (blocked : Bool) (annotations : Annotations) :
    (nodes : List Node) →
      (visitAll blocked annotations nodes).1 = (blocked || Forest.isBlocked nodes)
  | [] => by simp [visitAll, Forest.isBlocked]
  | node :: rest => by
    simp [visitAll, Forest.isBlocked, visit_fst annotations node, visitAll_fst _ _ rest,
      Bool.or_assoc]

end

end Annotations
end WithdrawalCascade
