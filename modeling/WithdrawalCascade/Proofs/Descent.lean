import Mathlib.Data.List.Nodup
import WithdrawalCascade.Proofs.Blocking

/-!
# Subtrees in pre-order

In pre-order a subtree stands in one piece, its top node first (`Node.preorder_isInfix`).  Two
things follow.  A node stands before everything under it, in the listing of the whole tree and in
any selection from that listing (`Forest.pair_sublist`).  And what blocks nowhere in a subtree
blocks nowhere in a smaller one, so below an eligible node everything that can be withdrawn is
eligible too (`Tree.mem_eligibleDescendants_of_above`).
-/

namespace WithdrawalCascade

/-! ## 1.  Pieces of a listing -/

mutual

/-- A listing has one entry for each node. -/
theorem Node.length_preorder : (node : Node) → node.preorder.length = node.size
  | ⟨kind, id, status, children⟩ => by
    rw [Node.preorder_eq, Node.size_eq, List.length_cons, Forest.length_preorder children]

theorem Forest.length_preorder :
    (nodes : List Node) → (Forest.preorder nodes).length = Forest.size nodes
  | [] => by rw [Forest.preorder_nil, Forest.size_nil, List.length_nil]
  | node :: rest => by
    rw [Forest.preorder_cons, Forest.size_cons, List.length_append, Node.length_preorder node,
      Forest.length_preorder rest]

end

mutual

/-- The listing of a subtree is one piece of the listing of the tree. -/
theorem Node.preorder_isInfix {below : Node} :
    (node : Node) → below ∈ node.preorder → below.preorder <:+: node.preorder
  | ⟨kind, id, status, children⟩, hmem => by
    have hlist : (Node.mk kind id status children).preorder =
        ⟨kind, id, status, children⟩ :: Forest.preorder children :=
      Node.preorder_eq _
    rw [hlist] at hmem
    rcases List.mem_cons.mp hmem with rfl | hmem
    · exact List.infix_refl _
    · rw [hlist]
      exact (Forest.preorder_isInfix children hmem).trans (List.suffix_cons _ _).isInfix

theorem Forest.preorder_isInfix {below : Node} :
    (nodes : List Node) → below ∈ Forest.preorder nodes → below.preorder <:+: Forest.preorder nodes
  | [], hmem => by
    rw [Forest.preorder_nil] at hmem
    exact absurd hmem List.not_mem_nil
  | node :: rest, hmem => by
    rw [Forest.preorder_cons] at hmem ⊢
    rcases List.mem_append.mp hmem with hmem | hmem
    · exact (Node.preorder_isInfix node hmem).trans (List.prefix_append _ _).isInfix
    · exact (Forest.preorder_isInfix rest hmem).trans (List.suffix_append _ _).isInfix

end

/-- What is under a node is wherever the node is. -/
theorem Forest.mem_preorder_of_above {nodes : List Node} {node below : Node}
    (hnode : node ∈ Forest.preorder nodes) (hbelow : below ∈ Forest.preorder node.children) :
    below ∈ Forest.preorder nodes :=
  (Forest.preorder_isInfix nodes hnode).subset (Node.mem_preorder_of_mem_children hbelow)

/-- **A node stands before what is under it.** -/
theorem Forest.pair_sublist {nodes : List Node} {node below : Node}
    (hnode : node ∈ Forest.preorder nodes) (hbelow : below ∈ Forest.preorder node.children) :
    [node, below].Sublist (Forest.preorder nodes) := by
  have hpair : [node, below].Sublist node.preorder := by
    rw [Node.preorder_eq]
    exact (List.singleton_sublist.mpr hbelow).cons_cons node
  exact hpair.trans (Forest.preorder_isInfix nodes hnode).sublist

/-- Two entries that are both selected keep their order. -/
theorem pair_sublist_filter {α : Type} {selected : α → Bool} {first second : α} {whole : List α}
    (hpair : [first, second].Sublist whole) (hfirst : selected first = true)
    (hsecond : selected second = true) : [first, second].Sublist (whole.filter selected) := by
  have hkept := hpair.filter selected
  rwa [List.filter_cons_of_pos hfirst, List.filter_cons_of_pos hsecond, List.filter_nil] at hkept

/-- Where nothing is repeated, a first part that has the second of two entries has the first as
well. -/
theorem pair_sublist_of_isPrefix {α : Type} {first second : α} {part whole : List α}
    (hpart : part <+: whole) (hnodup : whole.Nodup) (hpair : [first, second].Sublist whole)
    (hsecond : second ∈ part) : [first, second].Sublist part := by
  obtain ⟨rest, rfl⟩ := hpart
  obtain ⟨front, back, hsplit, hfront, hback⟩ := List.sublist_append_iff.mp hpair
  rcases List.eq_nil_or_concat back with rfl | ⟨initial, last, rfl⟩
  · rw [hsplit, List.append_nil]
    exact hfront
  · -- then the second entry would stand in both parts
    rw [List.concat_eq_append, ← List.append_assoc] at hsplit
    have hends : [first] = front ++ initial ∧ [second] = [last] := List.append_inj' hsplit rfl
    have hlast : second = last := List.singleton_inj.mp hends.2
    have hrest : second ∈ rest := by
      rw [hlast]
      exact hback.subset (by simp)
    exact absurd rfl ((List.nodup_append.mp hnodup).2.2 second hsecond second hrest)

/-! ## 2.  Eligibility below an eligible node -/

/-- A subtree in which nothing blocks has no blocked part. -/
theorem Node.isSubtreeBlocked_eq_false_of_above {node below : Node}
    (hfree : node.isSubtreeBlocked = false) (hbelow : below ∈ node.preorder) :
    below.isSubtreeBlocked = false := by
  rw [Node.isSubtreeBlocked_eq_false_iff] at hfree ⊢
  intro lower hlower
  exact hfree lower ((Node.preorder_isInfix node hbelow).subset hlower)

namespace Tree

variable (tree : Tree)

/-- The count that a tree gives of its nodes is their number. -/
theorem nodeCount_eq_size : tree.nodeCount = tree.root.size := by
  rw [nodeCount, Node.descendants_eq_preorder, Forest.length_preorder, Node.size_eq, Nat.add_comm]

theorem mem_eligibleDescendants_iff {node : Node} :
    node ∈ tree.root.eligibleDescendants tree.blocking ↔
      node ∈ Forest.preorder tree.root.children ∧ node.status.withdrawable = true ∧
        node.isSubtreeBlocked = false := by
  rw [eligibleDescendants_eq_filter, List.mem_filter, decide_eq_true_iff,
    Node.isSubtreeBlocked_eq_false_iff]

/-- **Eligibility goes down.**  Below an eligible descendant all that can be withdrawn is
eligible. -/
theorem mem_eligibleDescendants_of_above {node below : Node}
    (hnode : node ∈ tree.root.eligibleDescendants tree.blocking)
    (hbelow : below ∈ Forest.preorder node.children)
    (hwithdrawable : below.status.withdrawable = true) :
    below ∈ tree.root.eligibleDescendants tree.blocking := by
  rw [mem_eligibleDescendants_iff] at hnode ⊢
  obtain ⟨hmem, -, hfree⟩ := hnode
  exact ⟨Forest.mem_preorder_of_above hmem hbelow, hwithdrawable,
    Node.isSubtreeBlocked_eq_false_of_above hfree (Node.mem_preorder_of_mem_children hbelow)⟩

/-- Among the eligible descendants, too, a node stands before what is under it. -/
theorem pair_sublist_eligibleDescendants {node below : Node}
    (hnode : node ∈ tree.root.eligibleDescendants tree.blocking)
    (hbelow : below ∈ tree.root.eligibleDescendants tree.blocking)
    (hunder : below ∈ Forest.preorder node.children) :
    [node, below].Sublist (tree.root.eligibleDescendants tree.blocking) := by
  have hpair := Forest.pair_sublist (tree.mem_eligibleDescendants_iff.mp hnode).1 hunder
  rw [eligibleDescendants_eq_filter] at hnode hbelow ⊢
  exact pair_sublist_filter hpair (List.mem_filter.mp hnode).2 (List.mem_filter.mp hbelow).2

end Tree
end WithdrawalCascade
