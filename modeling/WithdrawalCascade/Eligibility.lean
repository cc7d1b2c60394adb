import WithdrawalCascade.Annotations

/-!
# Eligibility

Which descendants of an entity are withdrawn together with it: those that can be withdrawn and
whose subtree holds nothing that blocks.
-/

namespace WithdrawalCascade

/-- What the cascade makes of a descendant. -/
inductive Eligibility where
  /-- It can be withdrawn and nothing in its subtree blocks. -/
  | eligible
  /-- The builder of the tree found that it cannot be withdrawn. -/
  | notWithdrawable
  /-- It or one of its descendants blocks. -/
  | blocked
  deriving DecidableEq, Repr

namespace Eligibility

/-- The name of an eligibility in logs. -/
def name : Eligibility → String
  | eligible => "eligible"
  | notWithdrawable => "not_withdrawable"
  | blocked => "blocked"

end Eligibility

namespace Node

/-- The eligibility of a node under the given annotations. -/
def eligibility (node : Node) (annotations : Annotations) : Eligibility :=
  if !node.status.withdrawable then .notWithdrawable
  else if annotations.isSubtreeBlocked node.id then .blocked
  else .eligible

/-- The proper descendants of a node in pre-order, each with its eligibility. -/
def assessDescendants (root : Node) (annotations : Annotations) : List (Node × Eligibility) :=
  root.descendants.map fun node => (node, node.eligibility annotations)

/-- The proper descendants of a node that the cascade withdraws, in pre-order. -/
def eligibleDescendants (root : Node) (annotations : Annotations) : List Node :=
  ((root.assessDescendants annotations).filter fun assessed => assessed.2 = .eligible).map (·.1)

end Node
end WithdrawalCascade
