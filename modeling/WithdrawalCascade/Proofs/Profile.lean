import WithdrawalCascade.Proofs.Descent

/-!
# What a cascade knows of a node

Of a node in a withdrawable tree a cascade uses four things: its kind, its identifier, whether it
can be withdrawn, and whether its subtree holds a blocking entity.  They make up its profile.  From
the profiles one gets the assessment of the descendants (`Tree.map_brief_assessDescendants`) and the
selection of the eligible ones (`Tree.map_profile_eligibleDescendants`); so trees whose descendants
have the same profiles, in whatever sense of "same", are assessed alike in that sense.
-/

namespace WithdrawalCascade

/-- What a cascade knows of a node. -/
structure Profile where
  kind : EntityKind
  id : EntityId
  /-- Whether the entity can be withdrawn. -/
  withdrawable : Bool
  /-- Whether the subtree of the node holds a blocking entity. -/
  blocked : Bool
  deriving DecidableEq, Repr

/-- The profile of a node. -/
def Node.profile (node : Node) : Profile :=
  ⟨node.kind, node.id, node.status.withdrawable, node.isSubtreeBlocked⟩

namespace Profile

/-- The eligibility of a node with the given profile. -/
def eligibility (profile : Profile) : Eligibility :=
  if !profile.withdrawable then .notWithdrawable
  else if profile.blocked then .blocked
  else .eligible

/-- What a cascade is told of a node with the given profile. -/
def brief (profile : Profile) : EntityKind × EntityId × Eligibility :=
  (profile.kind, profile.id, profile.eligibility)

end Profile

/-- What a cascade uses of an assessed descendant. -/
def briefOf (assessed : Node × Eligibility) : EntityKind × EntityId × Eligibility :=
  (assessed.1.kind, assessed.1.id, assessed.2)

namespace Tree

variable (tree : Tree)

/-- In a withdrawable tree a node has the eligibility of its profile. -/
theorem eligibility_eq_profile {node : Node} (hmem : node ∈ tree.root.preorder) :
    node.eligibility tree.blocking = node.profile.eligibility := by
  rw [Node.eligibility, tree.isSubtreeBlocked_blocking hmem]
  rfl

/-- **The assessment is a matter of profiles.** -/
theorem map_brief_assessDescendants :
    (tree.root.assessDescendants tree.blocking).map briefOf =
      ((Forest.preorder tree.root.children).map Node.profile).map Profile.brief := by
  rw [Node.assessDescendants, Node.descendants_eq_preorder, List.map_map, List.map_map]
  refine List.map_congr_left fun node hnode => ?_
  show (node.kind, node.id, node.eligibility tree.blocking) = _
  rw [tree.eligibility_eq_profile (Node.mem_preorder_of_mem_children hnode)]
  rfl

/-- **The selection is a matter of profiles.** -/
theorem map_profile_eligibleDescendants :
    (tree.root.eligibleDescendants tree.blocking).map Node.profile =
      ((Forest.preorder tree.root.children).map Node.profile).filter fun profile =>
        profile.eligibility = .eligible := by
  rw [Node.eligibleDescendants_eq, List.filter_map]
  refine congrArg (List.map Node.profile) (List.filter_congr fun node hnode => ?_)
  rw [Function.comp_apply, tree.eligibility_eq_profile (Node.mem_preorder_of_mem_children hnode)]

/-- The number of nodes is one more than that of the profiles below the root. -/
theorem nodeCount_eq_profiles :
    tree.nodeCount = 1 + ((Forest.preorder tree.root.children).map Node.profile).length := by
  rw [nodeCount, Node.descendants_eq_preorder, List.length_map]

end Tree
end WithdrawalCascade
