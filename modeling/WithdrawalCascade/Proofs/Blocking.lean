import Mathlib.Data.List.Nodup
import Mathlib.Data.List.Perm.Basic
import WithdrawalCascade.Tree.Basic

/-!
# What the table of annotations says

The pass over a tree files one entry for each node, children before their parent, and a later entry
hides an earlier one.  Hence the table answers for an identifier with the flag of the last node in
post-order that bears it, and counts an identifier that no node bears as blocked
(`isSubtreeBlocked_compute`).

In a withdrawable tree every identifier belongs to one node, so there the table says of each node
what plain recursion says of it (`Tree.isSubtreeBlocked_blocking`), and the cascade withdraws the
withdrawable descendants over subtrees without a blocking entity
(`Tree.eligibleDescendants_eq_filter`).
-/

namespace WithdrawalCascade

/-! ## 1.  Orders

Pre-order and post-order list the same nodes, so what holds of all nodes of a subtree does not
depend on which of the two lists them. -/

/-- The loop lists what the recursion lists. -/
theorem Node.descendants_eq_preorder (node : Node) :
    node.descendants = Forest.preorder node.children := by
  rw [Node.descendants, Node.walk_eq_preorder]

/-- A node with its descendants is its subtree in pre-order. -/
theorem Node.all_eq_preorder (node : Node) : node.all = node.preorder := by
  rw [Node.all, Node.descendants_eq_preorder, ← Node.preorder_eq]

/-- Some nodes in turn, as one list made of those of each. -/
theorem Forest.preorder_eq_flatMap (nodes : List Node) :
    Forest.preorder nodes = nodes.flatMap Node.preorder := by
  induction nodes with
  | nil => rfl
  | cons node rest ih => rw [Forest.preorder_cons, List.flatMap_cons, ih]

/-- A node is among the nodes of its subtree. -/
theorem Node.mem_preorder_self (node : Node) : node ∈ node.preorder := by
  rw [Node.preorder_eq]
  exact List.mem_cons_self

/-- What is under a node is among the nodes of its subtree. -/
theorem Node.mem_preorder_of_mem_children {node below : Node}
    (hbelow : below ∈ Forest.preorder node.children) : below ∈ node.preorder := by
  rw [Node.preorder_eq]
  exact List.mem_cons_of_mem _ hbelow

mutual

/-- Post-order rearranges pre-order. -/
theorem Node.postorder_perm_preorder : (node : Node) → node.postorder.Perm node.preorder
  | ⟨kind, id, status, children⟩ => by
    rw [Node.postorder_eq, Node.preorder_eq]
    exact (List.perm_append_singleton _ _).trans
      ((Forest.postorder_perm_preorder children).cons _)

theorem Forest.postorder_perm_preorder :
    (nodes : List Node) → (Forest.postorder nodes).Perm (Forest.preorder nodes)
  | [] => by simp
  | node :: rest => by
    rw [Forest.postorder_cons, Forest.preorder_cons]
    exact (Node.postorder_perm_preorder node).append (Forest.postorder_perm_preorder rest)

end

/-! ## 2.  Blocked subtrees -/

theorem Node.isSubtreeBlocked_eq (node : Node) :
    node.isSubtreeBlocked = (node.status.blocksAncestors || Forest.isBlocked node.children) := by
  cases node
  rw [Node.isSubtreeBlocked]

theorem Forest.isBlocked_eq_any (nodes : List Node) :
    Forest.isBlocked nodes = nodes.any Node.isSubtreeBlocked := by
  induction nodes with
  | nil => rfl
  | cons node rest ih => rw [Forest.isBlocked, List.any_cons, ih]

mutual

/-- A subtree is blocked exactly when one of its nodes blocks. -/
theorem Node.isSubtreeBlocked_eq_true_iff :
    (node : Node) →
      (node.isSubtreeBlocked = true ↔ ∃ below ∈ node.preorder, below.status.blocksAncestors = true)
  | ⟨kind, id, status, children⟩ => by
    rw [Node.isSubtreeBlocked_eq, Node.preorder_eq, Bool.or_eq_true, List.exists_mem_cons_iff,
      Forest.isBlocked_eq_true_iff children]

theorem Forest.isBlocked_eq_true_iff :
    (nodes : List Node) →
      (Forest.isBlocked nodes = true ↔
        ∃ below ∈ Forest.preorder nodes, below.status.blocksAncestors = true)
  | [] => by simp [Forest.isBlocked]
  | node :: rest => by
    rw [Forest.isBlocked, Bool.or_eq_true, Node.isSubtreeBlocked_eq_true_iff node,
      Forest.isBlocked_eq_true_iff rest, Forest.preorder_cons]
    simp only [List.mem_append, or_and_right, exists_or]

end

/-- A subtree is free exactly when none of its nodes blocks. -/
theorem Node.isSubtreeBlocked_eq_false_iff (node : Node) :
    node.isSubtreeBlocked = false ↔ ∀ below ∈ node.preorder, below.status.blocksAncestors = false := by
  rw [← Bool.not_eq_true, Node.isSubtreeBlocked_eq_true_iff]
  simp only [not_exists, not_and, Bool.not_eq_true]

/-! ## 3.  The table -/

namespace Annotations

/-- What the pass files for a node. -/
def entryOf (node : Node) : EntityId × Bool :=
  (node.id, node.isSubtreeBlocked)

mutual

/-- The pass puts one entry for each node in front of what was filed before, the last node in
post-order foremost. -/
theorem visit_entries (annotations : Annotations) :
    (node : Node) →
      (visit annotations node).2.entries =
        (node.postorder.map entryOf).reverse ++ annotations.entries
  | ⟨kind, id, status, children⟩ => by
    have hflag := visitAll_fst status.blocksAncestors annotations children
    have hentries := visitAll_entries status.blocksAncestors annotations children
    simp [visit, insert, hflag, hentries, Node.postorder_eq, entryOf, Node.isSubtreeBlocked_eq]

theorem visitAll_entries (blocked : Bool) (annotations : Annotations) :
    (nodes : List Node) →
      (visitAll blocked annotations nodes).2.entries =
        ((Forest.postorder nodes).map entryOf).reverse ++ annotations.entries
  | [] => by simp [visitAll]
  | node :: rest => by
    have hnode := visit_entries annotations node
    simp [visitAll, visitAll_entries _ _ rest, hnode]

end

/-- The table lists the nodes from the last in post-order to the first. -/
theorem compute_entries (root : Node) :
    (compute root).entries = (root.postorder.reverse).map entryOf := by
  rw [compute, visit_entries, empty, List.append_nil, List.map_reverse]

theorem lookup_map_entryOf (id : EntityId) (nodes : List Node) :
    (nodes.map entryOf).lookup id =
      (nodes.find? fun node => node.id = id).map Node.isSubtreeBlocked := by
  induction nodes with
  | nil => rfl
  | cons node rest ih =>
    rw [List.map_cons, entryOf, List.lookup_cons, List.find?_cons, ih]
    by_cases h : node.id = id
    · simp [h]
    · have hne : (id == node.id) = false := beq_eq_false_iff_ne.mpr (Ne.symm h)
      simp [h, hne]

/-- **What the table answers.**  An identifier is answered for by the last node in post-order that
bears it, and counts as blocked where no node does. -/
theorem isSubtreeBlocked_compute (root : Node) (id : EntityId) :
    (compute root).isSubtreeBlocked id =
      ((root.postorder.reverse.find? fun node => node.id = id).map Node.isSubtreeBlocked).getD
        true := by
  rw [isSubtreeBlocked, compute_entries, lookup_map_entryOf]

theorem isSubtreeBlocked_compute_of_notMem {root : Node} {id : EntityId}
    (h : id ∉ root.preorder.map Node.id) : (compute root).isSubtreeBlocked id = true := by
  have hnone : (root.postorder.reverse.find? fun node => node.id = id) = none := by
    rw [List.find?_eq_none]
    intro node hnode hid
    refine h (List.mem_map.mpr ⟨node, ?_, of_decide_eq_true hid⟩)
    exact root.postorder_perm_preorder.mem_iff.mp (List.mem_reverse.mp hnode)
  rw [isSubtreeBlocked_compute, hnone]
  rfl

end Annotations

/-! ## 4.  Eligibility -/

/-- A node is eligible exactly when it can be withdrawn and is not annotated as blocked. -/
theorem Node.eligibility_eq_eligible_iff {node : Node} {annotations : Annotations} :
    node.eligibility annotations = .eligible ↔
      node.status.withdrawable = true ∧ annotations.isSubtreeBlocked node.id = false := by
  rw [Node.eligibility]
  cases node.status.withdrawable <;> cases annotations.isSubtreeBlocked node.id <;> simp

/-- Whatever the annotations, the eligible descendants stand in pre-order. -/
theorem Node.eligibleDescendants_eq (root : Node) (annotations : Annotations) :
    root.eligibleDescendants annotations =
      (Forest.preorder root.children).filter fun node =>
        node.eligibility annotations = .eligible := by
  rw [Node.eligibleDescendants, Node.assessDescendants, Node.descendants_eq_preorder,
    List.filter_map, List.map_map]
  exact List.map_id _

/-! ## 5.  Withdrawable trees -/

/-- Where identifiers differ, a node is found under its own. -/
theorem find?_id_eq_some {nodes : List Node} (hids : (nodes.map Node.id).Nodup) {node : Node}
    (hmem : node ∈ nodes) : (nodes.find? fun other => other.id = node.id) = some node := by
  cases hfind : nodes.find? fun other => other.id = node.id with
  | none =>
    rw [List.find?_eq_none] at hfind
    exact absurd (decide_eq_true rfl) (hfind node hmem)
  | some other =>
    have hid : other.id = node.id := by
      simpa using List.find?_some hfind
    exact congrArg some (List.inj_on_of_nodup_map hids (List.mem_of_find?_eq_some hfind) hmem hid)

/-- Where all identifiers differ, from one another and from those seen, none is repeated. -/
theorem firstRepeated?_eq_none_of_nodup {seen ids : List EntityId} (hids : ids.Nodup)
    (hfresh : ∀ id ∈ ids, id ∉ seen) : firstRepeated? seen ids = none := by
  induction ids generalizing seen with
  | nil => rfl
  | cons id rest ih =>
    obtain ⟨hid, hrest⟩ := List.nodup_cons.mp hids
    obtain ⟨hfirst, hothers⟩ := List.forall_mem_cons.mp hfresh
    rw [firstRepeated?, if_neg hfirst]
    refine ih hrest fun other hother hseen => ?_
    rcases List.mem_cons.mp hseen with rfl | hseen
    · exact hid hother
    · exact hothers other hother hseen

namespace Tree

/-- **What is accepted.**  A node becomes a tree, as it is, if no identifier in it comes up
twice. -/
theorem exists_ofRoot_eq_ok {root : Node} (hids : (root.preorder.map Node.id).Nodup) :
    ∃ tree, ofRoot root = .ok tree ∧ tree.root = root := by
  have hnone : firstRepeated? [] (root.all.map Node.id) = none := by
    rw [Node.all_eq_preorder]
    exact firstRepeated?_eq_none_of_nodup hids fun _ _ => List.not_mem_nil
  rw [ofRoot]
  split
  · exact ⟨_, rfl, rfl⟩
  · next id hrepeated =>
    rw [hnone] at hrepeated
    cases hrepeated

/-- A tree has the node that it was made of as its root. -/
theorem root_eq_of_ofRoot {root : Node} {tree : Tree} (h : ofRoot root = .ok tree) :
    tree.root = root := by
  rw [ofRoot] at h
  split at h
  · cases h
    rfl
  · cases h

variable (tree : Tree)

theorem nodup_preorder_ids : (tree.root.preorder.map Node.id).Nodup := by
  rw [← Node.all_eq_preorder]
  exact tree.ids_nodup

/-- The table of a withdrawable tree says of each of its nodes what plain recursion says. -/
theorem isSubtreeBlocked_blocking {node : Node} (hmem : node ∈ tree.root.preorder) :
    tree.blocking.isSubtreeBlocked node.id = node.isSubtreeBlocked := by
  have hperm : tree.root.postorder.reverse.Perm tree.root.preorder :=
    (List.reverse_perm _).trans tree.root.postorder_perm_preorder
  have hids : (tree.root.postorder.reverse.map Node.id).Nodup :=
    (hperm.map Node.id).nodup_iff.mpr tree.nodup_preorder_ids
  rw [blocking, Annotations.isSubtreeBlocked_compute,
    find?_id_eq_some hids (hperm.mem_iff.mpr hmem)]
  rfl

/-- The identifiers of the proper descendants differ from one another. -/
theorem nodup_descendant_ids : ((Forest.preorder tree.root.children).map Node.id).Nodup := by
  have h := tree.nodup_preorder_ids
  rw [Node.preorder_eq, List.map_cons] at h
  exact h.of_cons

/-- The root's identifier belongs to no proper descendant. -/
theorem root_id_notMem : tree.root.id ∉ (Forest.preorder tree.root.children).map Node.id := by
  have h := tree.nodup_preorder_ids
  rw [Node.preorder_eq, List.map_cons] at h
  exact List.Nodup.notMem h

theorem eligibility_eq_eligible_iff {node : Node} (hmem : node ∈ tree.root.preorder) :
    node.eligibility tree.blocking = .eligible ↔
      node.status.withdrawable = true ∧
        ∀ below ∈ node.preorder, below.status.blocksAncestors = false := by
  rw [Node.eligibility_eq_eligible_iff, tree.isSubtreeBlocked_blocking hmem,
    Node.isSubtreeBlocked_eq_false_iff]

/-- **What the cascade withdraws.**  The eligible descendants are the withdrawable ones over
subtrees in which nothing blocks, in pre-order. -/
theorem eligibleDescendants_eq_filter :
    tree.root.eligibleDescendants tree.blocking =
      (Forest.preorder tree.root.children).filter fun node =>
        node.status.withdrawable = true ∧
          ∀ below ∈ node.preorder, below.status.blocksAncestors = false := by
  rw [Node.eligibleDescendants_eq]
  refine List.filter_congr fun node hnode => ?_
  exact decide_eq_decide.mpr
    (tree.eligibility_eq_eligible_iff (Node.mem_preorder_of_mem_children hnode))

theorem nodup_eligible_ids :
    ((tree.root.eligibleDescendants tree.blocking).map Node.id).Nodup := by
  rw [eligibleDescendants_eq_filter]
  exact (List.filter_sublist.map Node.id).nodup tree.nodup_descendant_ids

end Tree
end WithdrawalCascade
