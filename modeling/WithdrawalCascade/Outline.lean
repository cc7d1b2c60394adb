import WithdrawalCascade.Node

/-!
# Outlines

A tree written down as a list of rows, each of which names the row of its parent.  A parent stands
above its children, and children of one parent keep the order of their rows.
-/

namespace WithdrawalCascade

/-- A node without its children, and the position of the row of its parent. -/
structure Row where
  kind : EntityKind
  id : EntityId
  status : Status
  /-- The position of the row under which this node hangs, none for a root. -/
  parent : Option Nat
  deriving DecidableEq, Repr

namespace Outline

/-- The node of a row with the given children. -/
def node (row : Row) (children : List Node) : Node :=
  ⟨row.kind, row.id, row.status, children⟩

/-- The nodes whose parent is not among the rows, each with the position of its parent.  The rows
begin at `position`; since every child stands below its parent, the children of a row are all built
before it. -/
def assemble : Nat → List Row → List (Option Nat × Node)
  | _, [] => []
  | position, row :: rows =>
    let pending := assemble (position + 1) rows
    let children := pending.filter fun entry => entry.1 = some position
    let others := pending.filter fun entry => entry.1 ≠ some position
    (row.parent, node row (children.map (·.2))) :: others

/-- The tree of an outline: the node of its first row. -/
def root? (rows : List Row) : Option Node :=
  (assemble 0 rows).head?.map (·.2)

end Outline
end WithdrawalCascade
