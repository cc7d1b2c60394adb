import Mathlib.Data.List.Induction
import WithdrawalCascade.Proofs.Descent
import WithdrawalCascade.Sample

/-!
# Which nodes become trees

A node becomes a withdrawable tree if the identifiers under and including it differ.  They are
compared with those seen before, one by one in the order of the walk.  What has been seen is at all
times the part of the list that has been passed, and nothing in that part is repeated
(`firstRepeated?_append`).  So the identifier that stops the check is the first that stands in the
list for a second time, no matter whether the two nodes that bear it lie in different subtrees or
one above the other.

* `Tree.accepted_iff_ids_differ`: which nodes are accepted, what the tree then says of itself, and
  which identifier is named otherwise.
-/

namespace WithdrawalCascade

/-! ## 1.  The first repetition -/

/-- A list in which something is repeated has a first repetition: an entry that stands before, while
nothing before it is repeated. -/
theorem exists_first_repetition {α : Type} {whole : List α} (h : ¬ whole.Nodup) :
    ∃ before item after, whole = before ++ item :: after ∧ before.Nodup ∧ item ∈ before := by
  induction whole using List.reverseRecOn with
  | nil => exact absurd List.nodup_nil h
  | append_singleton front last ih =>
    by_cases hfront : front.Nodup
    · refine ⟨front, last, [], rfl, hfront, ?_⟩
      by_contra hlast
      have hapart : ∀ item ∈ front, ∀ other ∈ [last], item ≠ other := by
        rintro item hitem other hother rfl
        exact hlast (List.mem_singleton.mp hother ▸ hitem)
      exact h (List.nodup_append.mpr ⟨hfront, List.nodup_singleton last, hapart⟩)
    · obtain ⟨before, item, after, rfl, hbefore, hitem⟩ := ih hfront
      exact ⟨before, item, after ++ [last], by simp, hbefore, hitem⟩

/-- **What has been seen is what has been passed.**  The check goes on behind identifiers that
differ and are new. -/
theorem firstRepeated?_append {seen before rest : List EntityId} (hbefore : before.Nodup)
    (hfresh : ∀ id ∈ before, id ∉ seen) :
    firstRepeated? seen (before ++ rest) = firstRepeated? (before.reverse ++ seen) rest := by
  induction before generalizing seen with
  | nil => rfl
  | cons first before ih =>
    obtain ⟨hfirst, hothers⟩ := List.nodup_cons.mp hbefore
    obtain ⟨hnew, hfresh⟩ := List.forall_mem_cons.mp hfresh
    rw [List.cons_append, firstRepeated?, if_neg hnew, ih hothers, List.reverse_cons,
      List.append_assoc, List.singleton_append]
    intro other hother hseen
    rcases List.mem_cons.mp hseen with rfl | hseen
    · exact hfirst hother
    · exact hfresh other hother hseen

/-- The first repetition is what the check finds. -/
theorem firstRepeated?_eq_some {before after : List EntityId} {id : EntityId}
    (hbefore : before.Nodup) (hid : id ∈ before) :
    firstRepeated? [] (before ++ id :: after) = some id := by
  rw [firstRepeated?_append hbefore fun _ _ => List.not_mem_nil, List.append_nil, firstRepeated?,
    if_pos (List.mem_reverse.mpr hid)]

/-! ## 2.  Acceptance -/

namespace Tree

/-- The root counts as blocked exactly if something in the tree blocks. -/
theorem isBlocked_eq_true_iff (tree : Tree) :
    tree.isBlocked = true ↔ ∃ node ∈ tree.root.preorder, node.status.blocksAncestors = true := by
  rw [isBlocked, tree.isSubtreeBlocked_blocking tree.root.mem_preorder_self,
    Node.isSubtreeBlocked_eq_true_iff]

/-- Where an identifier comes up again, the node is refused in its name. -/
theorem ofRoot_eq_error {root : Node} {id : EntityId}
    (h : firstRepeated? [] (root.preorder.map Node.id) = some id) :
    ofRoot root = .error (repeatedId id) := by
  rw [← Node.all_eq_preorder] at h
  rw [ofRoot]
  split
  · rename_i hnone
    rw [h] at hnone
    cases hnone
  · rename_i other hother
    rw [h] at hother
    cases hother
    rfl

/-- A node is accepted as a tree if and only if all identifiers under and including it differ.  The
tree then has the node as its root, the number of nodes under and including it as its count, and
counts as blocked if and only if one of these nodes blocks.  Otherwise the fault names the
identifier of the first node in pre-order, the root first, whose identifier some node before it
bears. -/
theorem accepted_iff_ids_differ (root : Node) :
    ((∃ tree, ofRoot root = .ok tree) ↔ (root.preorder.map Node.id).Nodup) ∧
      (∀ tree, ofRoot root = .ok tree →
        tree.root = root ∧ tree.nodeCount = root.size ∧
          (tree.isBlocked = true ↔
            ∃ node ∈ root.preorder, node.status.blocksAncestors = true)) ∧
      (¬ (root.preorder.map Node.id).Nodup →
        ∃ before node after, root.preorder = before ++ node :: after ∧
          (before.map Node.id).Nodup ∧ node.id ∈ before.map Node.id ∧
          ofRoot root = .error (.validation ("entity id " ++ node.id.render ++
            " appears more than once in withdrawable tree"))) := by
  refine ⟨⟨?_, ?_⟩, ?_, ?_⟩
  · rintro ⟨tree, htree⟩
    obtain rfl := root_eq_of_ofRoot htree
    exact tree.nodup_preorder_ids
  · intro hids
    obtain ⟨tree, htree, -⟩ := exists_ofRoot_eq_ok hids
    exact ⟨tree, htree⟩
  · intro tree htree
    obtain rfl := root_eq_of_ofRoot htree
    exact ⟨rfl, tree.nodeCount_eq_size, tree.isBlocked_eq_true_iff⟩
  · intro hrepeated
    obtain ⟨ids, id, rest, hsplit, hids, hid⟩ := exists_first_repetition hrepeated
    have hfound : firstRepeated? [] (root.preorder.map Node.id) = some id := by
      rw [hsplit]
      exact firstRepeated?_eq_some hids hid
    -- The list of identifiers is split, and with it the list of nodes.
    obtain ⟨before, remaining, hnodes, rfl, hremaining⟩ := List.map_eq_append_iff.mp hsplit
    obtain ⟨node, after, rfl, rfl, -⟩ := List.map_eq_cons_iff.mp hremaining
    exact ⟨before, node, after, hnodes, hids, hid, ofRoot_eq_error hfound⟩

/-- An application in which the identifier of a request comes up under the request itself, and that
of a booking under another request. -/
def repetitiveRoot : Node :=
  Sample.node (EntityId.ofNat 1) .application true
    [Sample.node (EntityId.ofNat 2) .placementRequest true
        [Sample.node (EntityId.ofNat 3) .booking true [],
          Sample.node (EntityId.ofNat 2) .booking true []],
      Sample.node (EntityId.ofNat 4) .placementRequest true
        [Sample.blockingNode (EntityId.ofNat 3) .booking []]]

/-- The second of the two requests alone. -/
def secondRequest : Node :=
  Sample.node (EntityId.ofNat 4) .placementRequest true
    [Sample.blockingNode (EntityId.ofNat 3) .booking []]

/-- Named is the repetition that comes first, although the identifier of the booking was given out
later than that of the request.  The second request alone is accepted, and is blocked. -/
theorem repetitiveRoot_refused :
    ¬ (repetitiveRoot.preorder.map Node.id).Nodup ∧
      ofRoot repetitiveRoot = .error (.validation ("entity id " ++ (EntityId.ofNat 2).render ++
        " appears more than once in withdrawable tree")) ∧
      ∃ tree, ofRoot secondRequest = .ok tree ∧ tree.root = secondRequest ∧
        tree.nodeCount = 2 ∧ tree.isBlocked = true := by
  have hrepeated : ¬ (repetitiveRoot.preorder.map Node.id).Nodup := by decide
  obtain ⟨-, -, hrefused⟩ := accepted_iff_ids_differ repetitiveRoot
  obtain ⟨haccepted, htold, -⟩ := accepted_iff_ids_differ secondRequest
  refine ⟨hrepeated, ?_, ?_⟩
  · obtain ⟨before, node, after, hsplit, hnodup, hmem, herror⟩ := hrefused hrepeated
    have hfound : firstRepeated? [] (repetitiveRoot.preorder.map Node.id) = some node.id := by
      rw [hsplit, List.map_append, List.map_cons]
      exact firstRepeated?_eq_some hnodup hmem
    have hid : node.id = EntityId.ofNat 2 := Option.some.inj (hfound.symm.trans (by decide))
    rw [herror, hid]
  · obtain ⟨tree, htree⟩ := haccepted.mpr (by decide)
    obtain ⟨hroot, hcount, hblocked⟩ := htold tree htree
    exact ⟨tree, htree, hroot, hcount, hblocked.mpr (by decide)⟩

end Tree
end WithdrawalCascade
