import WithdrawalCascade.Proofs.Tree.Acceptance

/-!
# What the user is offered

A tree offers the user the entities that may be withdrawn directly; a cascade picks the descendants
that are withdrawn with the root.  The two selections are made apart: the offer asks three things of
every node, the root included, and the cascade classifies the descendants.  Yet below the root they
keep in step, for the offer there is what the cascade picks, less the entities on which the user may
not act (`Tree.filter_eligibleDescendants`).

* `Tree.offer_agrees_with_cascade` says what is offered, on its own and against what the cascade
  picks.  Where the root itself is offered, nothing in the tree blocks, and the cascade picks all
  that can be withdrawn.
-/

namespace WithdrawalCascade
namespace Tree

variable (tree : Tree)

/-- Offered is what can be withdrawn, by the user, and has nothing in its subtree that blocks. -/
theorem directlyWithdrawable_eq_filter :
    tree.directlyWithdrawable = tree.root.preorder.filter fun node =>
      node.status.withdrawable = true ∧ node.status.mayDirectlyWithdraw = true ∧
        ∀ below ∈ node.preorder, below.status.blocksAncestors = false := by
  rw [directlyWithdrawable, Node.all_eq_preorder]
  refine List.filter_congr fun node hnode => ?_
  rw [tree.isSubtreeBlocked_blocking hnode, Bool.eq_iff_iff, decide_eq_true_iff,
    ← Node.isSubtreeBlocked_eq_false_iff, Bool.and_eq_true, Bool.and_eq_true, and_assoc,
    Bool.not_eq_true']

/-- **The offer below the root** is what the cascade picks, as far as the user may act on it. -/
theorem filter_eligibleDescendants :
    ((tree.root.eligibleDescendants tree.blocking).filter fun node =>
        node.status.mayDirectlyWithdraw) =
      (Forest.preorder tree.root.children).filter fun node =>
        node.status.withdrawable = true ∧ node.status.mayDirectlyWithdraw = true ∧
          ∀ below ∈ node.preorder, below.status.blocksAncestors = false := by
  rw [eligibleDescendants_eq_filter, List.filter_filter]
  refine List.filter_congr fun node _ => ?_
  rw [Bool.eq_iff_iff, Bool.and_eq_true, decide_eq_true_iff, decide_eq_true_iff, and_left_comm]

/-- Where nothing keeps the root from being withdrawn, all that can be withdrawn is eligible. -/
theorem eligibleDescendants_of_not_isBlocked (hfree : tree.isBlocked = false) :
    tree.root.eligibleDescendants tree.blocking =
      (Forest.preorder tree.root.children).filter fun node => node.status.withdrawable := by
  have hroot : tree.root.isSubtreeBlocked = false := by
    rw [← tree.isSubtreeBlocked_blocking tree.root.mem_preorder_self]
    exact hfree
  rw [eligibleDescendants_eq_filter]
  refine List.filter_congr fun node hnode => ?_
  have hnothing := Node.isSubtreeBlocked_eq_false_of_above hroot
    (Node.mem_preorder_of_mem_children hnode)
  rw [Node.isSubtreeBlocked_eq_false_iff] at hnothing
  rw [Bool.eq_iff_iff, decide_eq_true_iff]
  exact and_iff_left hnothing

/-- The user is offered, in pre-order from the root on, exactly the nodes that can be withdrawn, on
which the user may act, and in whose subtree nothing blocks.  If the root is offered, what follows
it is what the cascade picks as far as the user may act on it; then nothing blocks the root, and the
cascade picks every descendant that can be withdrawn.  If the root is not offered, the offer is what
the cascade picks as far as the user may act on it. -/
theorem offer_agrees_with_cascade :
    (tree.directlyWithdrawable = tree.root.preorder.filter fun node =>
        node.status.withdrawable = true ∧ node.status.mayDirectlyWithdraw = true ∧
          ∀ below ∈ node.preorder, below.status.blocksAncestors = false) ∧
      (tree.root ∈ tree.directlyWithdrawable →
        (tree.directlyWithdrawable = tree.root ::
          (tree.root.eligibleDescendants tree.blocking).filter fun node =>
            node.status.mayDirectlyWithdraw) ∧
        tree.isBlocked = false ∧
        tree.root.eligibleDescendants tree.blocking =
          (Forest.preorder tree.root.children).filter fun node => node.status.withdrawable) ∧
      (tree.root ∉ tree.directlyWithdrawable →
        tree.directlyWithdrawable =
          (tree.root.eligibleDescendants tree.blocking).filter fun node =>
            node.status.mayDirectlyWithdraw) := by
  have hlist := tree.directlyWithdrawable_eq_filter
  have hroot : tree.root ∈ tree.directlyWithdrawable ↔
      tree.root.status.withdrawable = true ∧ tree.root.status.mayDirectlyWithdraw = true ∧
        ∀ below ∈ tree.root.preorder, below.status.blocksAncestors = false := by
    rw [hlist, List.mem_filter, decide_eq_true_iff]
    exact and_iff_right tree.root.mem_preorder_self
  refine ⟨hlist, fun hoffered => ?_, fun hwithheld => ?_⟩
  · obtain ⟨-, -, hfree⟩ := hroot.mp hoffered
    have hblocked : tree.isBlocked = false := by
      rw [← Bool.not_eq_true, isBlocked_eq_true_iff]
      rintro ⟨node, hnode, hblocks⟩
      exact absurd (hfree node hnode) (by rw [hblocks]; decide)
    refine ⟨?_, hblocked, tree.eligibleDescendants_of_not_isBlocked hblocked⟩
    rw [hlist, filter_eligibleDescendants, tree.root.preorder_eq]
    exact List.filter_cons_of_pos (decide_eq_true (hroot.mp hoffered))
  · rw [hlist, filter_eligibleDescendants, tree.root.preorder_eq]
    exact List.filter_cons_of_neg fun hoffered =>
      hwithheld (hroot.mpr (of_decide_eq_true hoffered))

/-- An application with a request for placement over a booking that only the system may withdraw,
and with a booking that has been withdrawn. -/
def openTree : Tree where
  root := Sample.node (EntityId.ofNat 1) .application true
    [Sample.node (EntityId.ofNat 2) .placementRequest true
        [⟨.booking, EntityId.ofNat 3, Status.new true false, []⟩],
      Sample.node (EntityId.ofNat 4) .booking false []]
  ids_nodup := by
    rw [Node.all_eq_preorder]
    decide

/-- The same application with an arrival recorded for a booking under a second request. -/
def occupiedTree : Tree where
  root := Sample.node (EntityId.ofNat 1) .application true
    [Sample.node (EntityId.ofNat 2) .placementRequest true
        [⟨.booking, EntityId.ofNat 3, Status.new true false, []⟩],
      Sample.node (EntityId.ofNat 5) .placementRequest true
        [Sample.blockingNode (EntityId.ofNat 6) .booking []]]
  ids_nodup := by
    rw [Node.all_eq_preorder]
    decide

/-- As long as nothing blocks, the application is offered with the request, and the cascade picks
the booking as well.  The arrival takes the application out of the offer and leaves the first
request in. -/
theorem offer_before_and_after_arrival :
    openTree.root ∈ openTree.directlyWithdrawable ∧
      openTree.directlyWithdrawable.map Node.id = [EntityId.ofNat 1, EntityId.ofNat 2] ∧
      (openTree.root.eligibleDescendants openTree.blocking).map Node.id =
        [EntityId.ofNat 2, EntityId.ofNat 3] ∧
      occupiedTree.root ∉ occupiedTree.directlyWithdrawable ∧
      occupiedTree.directlyWithdrawable.map Node.id = [EntityId.ofNat 2] := by
  obtain ⟨hopen, hoffered, -⟩ := offer_agrees_with_cascade openTree
  obtain ⟨hoccupied, -, hwithheld⟩ := offer_agrees_with_cascade occupiedTree
  have hroot : openTree.root ∈ openTree.directlyWithdrawable := by
    rw [hopen, List.mem_filter]
    exact ⟨openTree.root.mem_preorder_self, by decide⟩
  have hnotRoot : occupiedTree.root ∉ occupiedTree.directlyWithdrawable := by
    rw [hoccupied, List.mem_filter]
    exact fun h => absurd h.2 (by decide)
  obtain ⟨hlist, -, hall⟩ := hoffered hroot
  refine ⟨hroot, ?_, ?_, hnotRoot, ?_⟩
  · rw [hlist, hall]
    decide
  · rw [hall]
    decide
  · rw [hwithheld hnotRoot, eligibleDescendants_eq_filter]
    decide

end Tree
end WithdrawalCascade
