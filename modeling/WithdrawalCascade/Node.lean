import WithdrawalCascade.EntityId.Basic
import WithdrawalCascade.EntityKind
import WithdrawalCascade.Status

/-!
# Nodes of a withdrawable tree

A node is an entity with everything that depends on it.  Its descendants are listed in pre-order,
each before what depends on it, siblings in the order of the builder.  The list is made by a loop
over a stack of nodes that are still to be visited; `preorder` is the same order said by plain
recursion, and `walk_eq_preorder` ties the two.
-/

namespace WithdrawalCascade

/-- An entity together with its dependants. -/
structure Node where
  /-- The kind of the entity. -/
  kind : EntityKind
  /-- The identifier of the entity. -/
  id : EntityId
  /-- What the builder found out about the entity. -/
  status : Status
  /-- What depends on the entity, in the order of the builder. -/
  children : List Node := []
  deriving Repr

/-! ## Size -/

mutual

/-- How many nodes there are under and including a node. -/
def Node.size : Node → Nat
  | ⟨_, _, _, children⟩ => Forest.size children + 1

/-- How many nodes there are under and including some nodes. -/
def Forest.size : List Node → Nat
  | [] => 0
  | node :: rest => node.size + Forest.size rest

end

theorem Node.size_eq (node : Node) : node.size = Forest.size node.children + 1 := by
  cases node
  rw [Node.size]

@[simp] theorem Forest.size_nil : Forest.size [] = 0 := by
  rw [Forest.size]

@[simp] theorem Forest.size_cons (node : Node) (rest : List Node) :
    Forest.size (node :: rest) = node.size + Forest.size rest := by
  rw [Forest.size]

@[simp] theorem Forest.size_append (nodes rest : List Node) :
    Forest.size (nodes ++ rest) = Forest.size nodes + Forest.size rest := by
  induction nodes with
  | nil => simp
  | cons node nodes ih => simp [ih, Nat.add_assoc]

/-! ## Order -/

mutual

/-- A node and then its descendants, each node before those under it. -/
def Node.preorder : Node → List Node
  | ⟨kind, id, status, children⟩ => ⟨kind, id, status, children⟩ :: Forest.preorder children

/-- Some nodes in turn, each followed by its descendants. -/
def Forest.preorder : List Node → List Node
  | [] => []
  | node :: rest => node.preorder ++ Forest.preorder rest

end

theorem Node.preorder_eq (node : Node) : node.preorder = node :: Forest.preorder node.children := by
  cases node
  rw [Node.preorder]

@[simp] theorem Forest.preorder_nil : Forest.preorder [] = [] := by
  rw [Forest.preorder]

@[simp] theorem Forest.preorder_cons (node : Node) (rest : List Node) :
    Forest.preorder (node :: rest) = node.preorder ++ Forest.preorder rest := by
  rw [Forest.preorder]

@[simp] theorem Forest.preorder_append (nodes rest : List Node) :
    Forest.preorder (nodes ++ rest) = Forest.preorder nodes ++ Forest.preorder rest := by
  induction nodes with
  | nil => simp
  | cons node nodes ih => simp [ih]

mutual

/-- The descendants of a node, each after those under it, and then the node itself. -/
def Node.postorder : Node → List Node
  | ⟨kind, id, status, children⟩ => Forest.postorder children ++ [⟨kind, id, status, children⟩]

/-- Some nodes in turn, each preceded by its descendants. -/
def Forest.postorder : List Node → List Node
  | [] => []
  | node :: rest => node.postorder ++ Forest.postorder rest

end

theorem Node.postorder_eq (node : Node) :
    node.postorder = Forest.postorder node.children ++ [node] := by
  cases node
  rw [Node.postorder]

@[simp] theorem Forest.postorder_nil : Forest.postorder [] = [] := by
  rw [Forest.postorder]

@[simp] theorem Forest.postorder_cons (node : Node) (rest : List Node) :
    Forest.postorder (node :: rest) = node.postorder ++ Forest.postorder rest := by
  rw [Forest.postorder]

/-! ## The walk -/

namespace Node

/-- Visits the node on top of a stack, puts its children on the stack in its place, and goes on
until the stack is empty. -/
def walk : List Node → List Node
  | [] => []
  | node :: stack => node :: walk (node.children ++ stack)
termination_by stack => Forest.size stack
decreasing_by
  simp [Node.size_eq]

/-- The proper descendants of a node. -/
def descendants (node : Node) : List Node :=
  walk node.children

/-- What is still to be visited are the stacked nodes, from the top down, each followed by its
descendants. -/
theorem walk_eq_preorder (stack : List Node) : walk stack = Forest.preorder stack := by
  fun_induction walk stack with
  | case1 => simp
  | case2 node stack ih => simp [ih, Node.preorder_eq]

end Node
end WithdrawalCascade
