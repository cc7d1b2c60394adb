import Mathlib.Data.Finset.Basic
import WithdrawalCascade.Proofs.Descent
import WithdrawalCascade.Sample

/-!
# Blocking and eligibility stay within a subtree

Whether a node of a withdrawable tree is blocked, and hence whether it is eligible, is a matter of
its own subtree.  The table for the whole tree is made in one pass and asked by identifier, so this
is not to be seen in the pass; but the subtree of a node is a withdrawable tree again
(`Tree.subtree`), and the table of any withdrawable tree says of its nodes what plain recursion
says.  Two laws follow.

* `Tree.subtrees_apart`: the children of the root can be treated one by one, each with a table of
  its own, and together they have the eligible descendants that the root has.
* `Tree.further_blocks`: if further nodes are made to block, the nodes that come to be blocked are
  those over them, and the eligible descendants are those of before without these nodes.
-/

namespace WithdrawalCascade

/-! ## 1.  Subtrees -/

theorem Forest.mem_preorder_of_mem {nodes : List Node} {node : Node} (h : node ∈ nodes) :
    node ∈ Forest.preorder nodes := by
  rw [Forest.preorder_eq_flatMap, List.mem_flatMap]
  exact ⟨node, h, node.mem_preorder_self⟩

/-- Eligibility is a matter of one flag and one answer of the table. -/
theorem Node.eligibility_congr {node other : Node} {annotations others : Annotations}
    (hwithdrawable : node.status.withdrawable = other.status.withdrawable)
    (hblocked : annotations.isSubtreeBlocked node.id = others.isSubtreeBlocked other.id) :
    node.eligibility annotations = other.eligibility others := by
  rw [Node.eligibility, Node.eligibility, hwithdrawable, hblocked]

/-- The eligible descendants of a node are, child by child, the child if it is eligible and then
the eligible descendants of the child. -/
theorem Node.eligibleDescendants_eq_flatMap (root : Node) (annotations : Annotations) :
    root.eligibleDescendants annotations = root.children.flatMap fun child =>
      (if child.eligibility annotations = .eligible then [child] else []) ++
        child.eligibleDescendants annotations := by
  rw [Node.eligibleDescendants_eq, Forest.preorder_eq_flatMap, List.filter_flatMap]
  refine List.flatMap_congr fun child _ => ?_
  rw [Node.eligibleDescendants_eq, Node.preorder_eq, List.filter_cons]
  by_cases heligible : child.eligibility annotations = .eligible <;> simp [heligible]

/-- Tables that agree on what is below a node make the same nodes below it eligible. -/
theorem Node.eligibleDescendants_congr {root : Node} {annotations others : Annotations}
    (h : ∀ node ∈ Forest.preorder root.children,
      node.eligibility annotations = node.eligibility others) :
    root.eligibleDescendants annotations = root.eligibleDescendants others := by
  rw [Node.eligibleDescendants_eq, Node.eligibleDescendants_eq]
  refine List.filter_congr fun node hnode => ?_
  rw [h node hnode]

namespace Tree

variable (tree : Tree)

/-- The subtree of a node of a withdrawable tree, as a tree of its own. -/
def subtree {top : Node} (htop : top ∈ tree.root.preorder) : Tree where
  root := top
  ids_nodup := by
    rw [Node.all_eq_preorder]
    have hpiece := Node.preorder_isInfix tree.root htop
    exact (hpiece.sublist.map Node.id).nodup tree.nodup_preorder_ids

variable {tree} {top node : Node}

/-- **The table of a subtree** says of its nodes what the table of the whole tree says. -/
theorem isSubtreeBlocked_subtree (htop : top ∈ tree.root.preorder) (hnode : node ∈ top.preorder) :
    (Annotations.compute top).isSubtreeBlocked node.id =
      tree.blocking.isSubtreeBlocked node.id := by
  have hwhole : node ∈ tree.root.preorder := (Node.preorder_isInfix tree.root htop).subset hnode
  rw [tree.isSubtreeBlocked_blocking hwhole]
  exact (tree.subtree htop).isSubtreeBlocked_blocking hnode

theorem eligibility_subtree (htop : top ∈ tree.root.preorder) (hnode : node ∈ top.preorder) :
    node.eligibility (Annotations.compute top) = node.eligibility tree.blocking :=
  Node.eligibility_congr rfl (isSubtreeBlocked_subtree htop hnode)

theorem eligibleDescendants_subtree (htop : top ∈ tree.root.preorder) :
    top.eligibleDescendants (Annotations.compute top) = top.eligibleDescendants tree.blocking :=
  Node.eligibleDescendants_congr fun _ hnode =>
    eligibility_subtree htop (Node.mem_preorder_of_mem_children hnode)

/-- Under and including a child of the root, blocking and eligibility are the same by the table of
the tree and by that of the child alone.  The eligible descendants of the root are, child by child,
the child if it is eligible by its own table, and then its eligible descendants by that table. -/
theorem subtrees_apart (tree : Tree) :
    (∀ child ∈ tree.root.children, ∀ node ∈ child.preorder,
      (Annotations.compute child).isSubtreeBlocked node.id =
          tree.blocking.isSubtreeBlocked node.id ∧
        node.eligibility (Annotations.compute child) = node.eligibility tree.blocking) ∧
      tree.root.eligibleDescendants tree.blocking = tree.root.children.flatMap fun child =>
        (if child.eligibility (Annotations.compute child) = .eligible then [child] else []) ++
          child.eligibleDescendants (Annotations.compute child) := by
  have htop : ∀ child ∈ tree.root.children, child ∈ tree.root.preorder := fun child hchild =>
    Node.mem_preorder_of_mem_children (Forest.mem_preorder_of_mem hchild)
  constructor
  · intro child hchild node hnode
    exact ⟨isSubtreeBlocked_subtree (htop child hchild) hnode,
      eligibility_subtree (htop child hchild) hnode⟩
  · rw [Node.eligibleDescendants_eq_flatMap]
    refine List.flatMap_congr fun child hchild => ?_
    rw [eligibility_subtree (htop child hchild) child.mem_preorder_self,
      eligibleDescendants_subtree (htop child hchild)]

/-- A request for placement over a booking for which an arrival is recorded and another booking. -/
def arrivedRequest : Node :=
  Sample.node (EntityId.ofNat 2) .placementRequest true
    [Sample.blockingNode (EntityId.ofNat 3) .booking [],
      Sample.node (EntityId.ofNat 4) .booking true []]

/-- A request over two bookings, of which the second cannot be withdrawn. -/
def openRequest : Node :=
  Sample.node (EntityId.ofNat 5) .placementApplication true
    [Sample.node (EntityId.ofNat 6) .booking true [],
      Sample.node (EntityId.ofNat 7) .booking false []]

/-- An application with these two requests. -/
def requestsTree : Tree where
  root := Sample.node (EntityId.ofNat 1) .application true [arrivedRequest, openRequest]
  ids_nodup := by
    rw [Node.all_eq_preorder]
    decide

/-- By its own table the first request is blocked as it is in the tree, and each request has its
share of the eligible descendants. -/
theorem requests_apart :
    arrivedRequest ∈ requestsTree.root.children ∧ arrivedRequest ∈ arrivedRequest.preorder ∧
      (Annotations.compute arrivedRequest).isSubtreeBlocked arrivedRequest.id =
        requestsTree.blocking.isSubtreeBlocked arrivedRequest.id ∧
      (requestsTree.root.eligibleDescendants requestsTree.blocking).map Node.id =
        [EntityId.ofNat 4, EntityId.ofNat 5, EntityId.ofNat 6] := by
  obtain ⟨hunder, hlist⟩ := subtrees_apart requestsTree
  have hchild : arrivedRequest ∈ requestsTree.root.children := List.mem_cons_self
  have hself : arrivedRequest ∈ arrivedRequest.preorder := arrivedRequest.mem_preorder_self
  refine ⟨hchild, hself, (hunder _ hchild _ hself).1, ?_⟩
  rw [hlist]
  simp only [Node.eligibleDescendants_eq]
  decide

end Tree

/-! ## 2.  Further blocks -/

mutual

/-- The node with a block set, besides the blocks there are, on every node under and including it
whose identifier is in `added`. -/
def Node.withBlocks (added : Finset EntityId) : Node → Node
  | ⟨kind, id, status, children⟩ =>
    ⟨kind, id, { status with blocksAncestors := status.blocksAncestors || id ∈ added },
      Forest.withBlocks added children⟩

/-- Some nodes, each with the further blocks. -/
def Forest.withBlocks (added : Finset EntityId) : List Node → List Node
  | [] => []
  | node :: rest => node.withBlocks added :: Forest.withBlocks added rest

end

namespace Node

variable (added : Finset EntityId) (node : Node)

@[simp] theorem withBlocks_id : (node.withBlocks added).id = node.id := by
  cases node
  rw [withBlocks]

@[simp] theorem withBlocks_withdrawable :
    (node.withBlocks added).status.withdrawable = node.status.withdrawable := by
  cases node
  rw [withBlocks]

@[simp] theorem withBlocks_blocksAncestors :
    (node.withBlocks added).status.blocksAncestors =
      (node.status.blocksAncestors || node.id ∈ added) := by
  cases node
  rw [withBlocks]

@[simp] theorem withBlocks_children :
    (node.withBlocks added).children = Forest.withBlocks added node.children := by
  cases node
  rw [withBlocks]

end Node

mutual

/-- The nodes stay where they are. -/
theorem Node.preorder_withBlocks (added : Finset EntityId) :
    (node : Node) → (node.withBlocks added).preorder = node.preorder.map (Node.withBlocks added)
  | ⟨kind, id, status, children⟩ => by
    rw [Node.preorder_eq, Node.preorder_eq, List.map_cons, Node.withBlocks_children,
      Forest.preorder_withBlocks added children]

theorem Forest.preorder_withBlocks (added : Finset EntityId) :
    (nodes : List Node) →
      Forest.preorder (Forest.withBlocks added nodes) =
        (Forest.preorder nodes).map (Node.withBlocks added)
  | [] => rfl
  | node :: rest => by
    rw [Forest.withBlocks, Forest.preorder_cons, Forest.preorder_cons, List.map_append,
      Node.preorder_withBlocks added node, Forest.preorder_withBlocks added rest]

end

mutual

/-- Where no identifier is in `added`, nothing changes. -/
theorem Node.withBlocks_eq_self {added : Finset EntityId} :
    (node : Node) → (∀ below ∈ node.preorder, below.id ∉ added) → node.withBlocks added = node
  | ⟨kind, id, status, children⟩, h => by
    rw [Node.preorder_eq, List.forall_mem_cons] at h
    obtain ⟨hid, hchildren⟩ := h
    have hflag : (status.blocksAncestors || decide (id ∈ added)) = status.blocksAncestors := by
      rw [decide_eq_false hid, Bool.or_false]
    rw [Node.withBlocks, Forest.withBlocks_eq_self children hchildren, hflag]

theorem Forest.withBlocks_eq_self {added : Finset EntityId} :
    (nodes : List Node) → (∀ below ∈ Forest.preorder nodes, below.id ∉ added) →
      Forest.withBlocks added nodes = nodes
  | [], _ => rfl
  | node :: rest, h => by
    rw [Forest.preorder_cons, List.forall_mem_append] at h
    rw [Forest.withBlocks, Node.withBlocks_eq_self node h.1, Forest.withBlocks_eq_self rest h.2]

end

/-- A subtree with further blocks is blocked if it was before, or if it has one of the further
blocks. -/
theorem Node.isSubtreeBlocked_withBlocks_iff {added : Finset EntityId} {node : Node} :
    (node.withBlocks added).isSubtreeBlocked = true ↔
      node.isSubtreeBlocked = true ∨ ∃ below ∈ node.preorder, below.id ∈ added := by
  rw [Node.isSubtreeBlocked_eq_true_iff, Node.isSubtreeBlocked_eq_true_iff,
    Node.preorder_withBlocks]
  simp only [List.mem_map, exists_exists_and_eq_and, Node.withBlocks_blocksAncestors,
    Bool.or_eq_true, decide_eq_true_iff, and_or_left, exists_or]

namespace Tree

variable {tree other : Tree} {added : Finset EntityId} {node : Node}
  (hroot : other.root = tree.root.withBlocks added)

include hroot

/-- The table of a tree with further blocks. -/
theorem isSubtreeBlocked_of_withBlocks (hnode : node ∈ tree.root.preorder) :
    other.blocking.isSubtreeBlocked node.id = (node.withBlocks added).isSubtreeBlocked := by
  have hplace : node.withBlocks added ∈ other.root.preorder := by
    rw [hroot, Node.preorder_withBlocks]
    exact List.mem_map_of_mem hnode
  rw [← other.isSubtreeBlocked_blocking hplace, Node.withBlocks_id]

/-- What was blocked before stays so. -/
theorem isSubtreeBlocked_of_withBlocks_iff (hnode : node ∈ tree.root.preorder) :
    other.blocking.isSubtreeBlocked node.id = true ↔
      tree.blocking.isSubtreeBlocked node.id = true ∨
        ∃ below ∈ node.preorder, below.id ∈ added := by
  rw [isSubtreeBlocked_of_withBlocks hroot hnode, Node.isSubtreeBlocked_withBlocks_iff,
    tree.isSubtreeBlocked_blocking hnode]

/-- What was eligible before stays so, unless it has one of the further blocks in its subtree. -/
theorem eligibility_of_withBlocks_eq_eligible_iff (hnode : node ∈ tree.root.preorder) :
    (node.withBlocks added).eligibility other.blocking = .eligible ↔
      node.eligibility tree.blocking = .eligible ∧ ∀ below ∈ node.preorder, below.id ∉ added := by
  have hfree : other.blocking.isSubtreeBlocked node.id = false ↔
      tree.blocking.isSubtreeBlocked node.id = false ∧
        ∀ below ∈ node.preorder, below.id ∉ added := by
    rw [← Bool.not_eq_true, ← Bool.not_eq_true, isSubtreeBlocked_of_withBlocks_iff hroot hnode]
    simp only [not_or, not_exists, not_and]
  rw [Node.eligibility_eq_eligible_iff, Node.eligibility_eq_eligible_iff,
    Node.withBlocks_withdrawable, Node.withBlocks_id, hfree, and_assoc]

/-- The eligible descendants over none of the further blocks are left, and they are the same nodes
as before. -/
theorem eligibleDescendants_of_withBlocks :
    other.root.eligibleDescendants other.blocking =
      (tree.root.eligibleDescendants tree.blocking).filter fun node =>
        ∀ below ∈ node.preorder, below.id ∉ added := by
  have hplaces : Forest.preorder other.root.children =
      (Forest.preorder tree.root.children).map (Node.withBlocks added) := by
    rw [hroot, Node.withBlocks_children, Forest.preorder_withBlocks]
  have hselected : ∀ node ∈ Forest.preorder tree.root.children,
      decide ((node.withBlocks added).eligibility other.blocking = .eligible) =
        (decide (∀ below ∈ node.preorder, below.id ∉ added) &&
          decide (node.eligibility tree.blocking = .eligible)) := by
    intro node hnode
    rw [Bool.and_comm, ← Bool.decide_and]
    exact decide_eq_decide.mpr (eligibility_of_withBlocks_eq_eligible_iff hroot
      (Node.mem_preorder_of_mem_children hnode))
  rw [Node.eligibleDescendants_eq, Node.eligibleDescendants_eq, hplaces, List.filter_map,
    List.filter_filter, ← List.filter_congr hselected]
  -- what is left has no further block in its subtree, so nothing in it was changed
  refine (List.map_congr_left fun node hnode => ?_).trans (List.map_id _)
  obtain ⟨hmem, heligible⟩ := List.mem_filter.mp hnode
  have hfurther := (eligibility_of_withBlocks_eq_eligible_iff hroot
    (Node.mem_preorder_of_mem_children hmem)).mp (of_decide_eq_true heligible)
  exact Node.withBlocks_eq_self node hfurther.2

omit hroot

/-- Let further nodes of a tree be made to block.  The result is accepted as a tree with the same
nodes in the same places.  Blocked in it are the nodes that were blocked before and those with a
further block in their subtree.  All others keep their eligibility, as do those that were blocked
before, and what cannot be withdrawn stays so; nothing becomes eligible.  The eligible descendants
are those of before, in their order, without those that have a further block in their subtree.  (In
a tree a set of nodes is given by a set of identifiers.) -/
theorem further_blocks (tree : Tree) (added : Finset EntityId) :
    ∃ other, Tree.ofRoot (tree.root.withBlocks added) = .ok other ∧
      other.root = tree.root.withBlocks added ∧
      other.root.preorder = tree.root.preorder.map (Node.withBlocks added) ∧
      (∀ node ∈ tree.root.preorder,
        (other.blocking.isSubtreeBlocked node.id = true ↔
            tree.blocking.isSubtreeBlocked node.id = true ∨
              ∃ below ∈ node.preorder, below.id ∈ added) ∧
          ((tree.blocking.isSubtreeBlocked node.id = true ∨
              ∀ below ∈ node.preorder, below.id ∉ added) →
            (node.withBlocks added).eligibility other.blocking = node.eligibility tree.blocking) ∧
          (node.status.withdrawable = false →
            (node.withBlocks added).eligibility other.blocking = .notWithdrawable) ∧
          ((node.withBlocks added).eligibility other.blocking = .eligible →
            node.eligibility tree.blocking = .eligible)) ∧
      other.root.eligibleDescendants other.blocking =
        (tree.root.eligibleDescendants tree.blocking).filter fun node =>
          ∀ below ∈ node.preorder, below.id ∉ added := by
  have hids : ((tree.root.withBlocks added).preorder.map Node.id).Nodup := by
    have hsame : Node.id ∘ Node.withBlocks added = Node.id := funext (Node.withBlocks_id added)
    rw [Node.preorder_withBlocks, List.map_map, hsame]
    exact tree.nodup_preorder_ids
  obtain ⟨other, hother, hroot⟩ := Tree.exists_ofRoot_eq_ok hids
  have hpreorder : other.root.preorder = tree.root.preorder.map (Node.withBlocks added) := by
    rw [hroot, Node.preorder_withBlocks]
  refine ⟨other, hother, hroot, hpreorder, ?_, eligibleDescendants_of_withBlocks hroot⟩
  intro node hnode
  have hblocked := isSubtreeBlocked_of_withBlocks_iff hroot hnode
  refine ⟨hblocked, ?_, ?_, ?_⟩
  · intro hkept
    refine Node.eligibility_congr (node.withBlocks_withdrawable added) ?_
    rw [Node.withBlocks_id, Bool.eq_iff_iff, hblocked]
    refine ⟨fun hnow => ?_, Or.inl⟩
    rcases hkept with hbefore | hnone
    · exact hbefore
    · exact hnow.resolve_right fun ⟨below, hbelow, hadded⟩ => hnone below hbelow hadded
  · intro hwithdrawable
    rw [Node.eligibility, Node.withBlocks_withdrawable, hwithdrawable]
    rfl
  · exact fun heligible =>
      ((eligibility_of_withBlocks_eq_eligible_iff hroot hnode).mp heligible).1

/-- A block on a booking of the second request takes that request, and leaves alone the booking
under the first one. -/
theorem requests_with_block :
    openRequest ∈ requestsTree.root.preorder ∧
      (∃ below ∈ openRequest.preorder, below.id ∈ ({EntityId.ofNat 6} : Finset EntityId)) ∧
      ∃ other, Tree.ofRoot (requestsTree.root.withBlocks {EntityId.ofNat 6}) = .ok other ∧
        other.blocking.isSubtreeBlocked openRequest.id = true ∧
        (other.root.eligibleDescendants other.blocking).map Node.id = [EntityId.ofNat 4] := by
  obtain ⟨other, hother, -, -, hnodes, hlist⟩ := further_blocks requestsTree {EntityId.ofNat 6}
  have hmem : openRequest ∈ requestsTree.root.preorder :=
    Node.mem_preorder_of_mem_children
      (Forest.mem_preorder_of_mem (List.mem_cons_of_mem _ List.mem_cons_self))
  have hbelow : ∃ below ∈ openRequest.preorder,
      below.id ∈ ({EntityId.ofNat 6} : Finset EntityId) := by decide
  refine ⟨hmem, hbelow, other, hother, (hnodes _ hmem).1.mpr (.inr hbelow), ?_⟩
  rw [hlist, requestsTree.eligibleDescendants_eq_filter]
  decide

end Tree
end WithdrawalCascade
