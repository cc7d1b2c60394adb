import WithdrawalCascade.Proofs.Descent
import WithdrawalCascade.Sample

/-!
# Who answers for an identifier

The table of annotations is asked by identifier.  In a withdrawable tree this is as good as asking
by node.  But a table can be computed for any node, also for one under which an identifier comes up
more than once, and it can be held against another tree than the one that it was computed for.
Whatever the tree, the last node in post-order that bears the identifier answers for it
(`Node.lastBearer?`), and what it answers is whether its own subtree holds a blocking entity.

* `Annotations.last_bearer_answers` says this of the table, with what it comes to where identifiers
  differ.
* `Annotations.foreign_annotations_fail_closed` says what a tree gets from the table of another: an
  entity that the other tree does not know is never withdrawn.  What the other tree did know is
  judged as it stood there, so that only the table of the tree itself, and only if no identifier
  comes up twice, keeps everything above a blocking entity from being withdrawn.
-/

namespace WithdrawalCascade

/-! ## 1.  The last bearer -/

/-- What is found from the end satisfies the condition, and nothing after it does. -/
theorem findRev?_eq_some_iff {α : Type} {selected : α → Bool} {whole : List α} {found : α} :
    whole.findRev? selected = some found ↔
      selected found = true ∧ ∃ before after,
        whole = before ++ found :: after ∧ ∀ item ∈ after, selected item = false := by
  rw [List.findRev?_eq_find?_reverse, List.find?_eq_some_iff_append]
  refine and_congr_right fun _ => ?_
  constructor
  · rintro ⟨after, before, hsplit, hafter⟩
    have hforward := congrArg List.reverse hsplit
    refine ⟨before.reverse, after.reverse, by simpa using hforward, fun item hitem => ?_⟩
    simpa using hafter item (List.mem_reverse.mp hitem)
  · rintro ⟨before, after, rfl, hafter⟩
    refine ⟨after.reverse, before.reverse, by simp, fun item hitem => ?_⟩
    rw [hafter item (List.mem_reverse.mp hitem)]
    rfl

namespace Node

variable {root node : Node} {id : EntityId}

/-- The last node in post-order that bears an identifier, among a node and its descendants. -/
def lastBearer? (root : Node) (id : EntityId) : Option Node :=
  root.postorder.findRev? fun node => node.id = id

/-- The last bearer of an identifier bears it, and no node after it does. -/
theorem lastBearer?_eq_some_iff :
    root.lastBearer? id = some node ↔
      node.id = id ∧ ∃ before after,
        root.postorder = before ++ node :: after ∧ id ∉ after.map Node.id := by
  rw [lastBearer?, findRev?_eq_some_iff, decide_eq_true_iff]
  simp only [decide_eq_false_iff_not, List.mem_map, not_exists, not_and]

/-- Only an identifier that no node bears has no last bearer. -/
theorem lastBearer?_eq_none_iff :
    root.lastBearer? id = none ↔ id ∉ root.preorder.map Node.id := by
  rw [lastBearer?, List.findRev?_eq_find?_reverse, List.find?_eq_none, List.mem_map]
  simp only [List.mem_reverse, root.postorder_perm_preorder.mem_iff, decide_eq_true_iff, not_exists,
    not_and]

end Node

namespace Annotations

/-! ## 2.  The table of any node -/

theorem isSubtreeBlocked_of_lastBearer? {root last : Node} {id : EntityId}
    (h : root.lastBearer? id = some last) :
    (compute root).isSubtreeBlocked id = last.isSubtreeBlocked := by
  rw [Node.lastBearer?, List.findRev?_eq_find?_reverse] at h
  rw [isSubtreeBlocked_compute, h]
  rfl

/-- Only a node whose subtree is free can keep an identifier from counting as blocked. -/
theorem isSubtreeBlocked_compute_eq_false_iff {root : Node} {id : EntityId} :
    (compute root).isSubtreeBlocked id = false ↔
      ∃ last ∈ root.lastBearer? id, ∀ below ∈ last.preorder,
        below.status.blocksAncestors = false := by
  cases hlast : root.lastBearer? id with
  | none =>
    rw [isSubtreeBlocked_compute_of_notMem (Node.lastBearer?_eq_none_iff.mp hlast)]
    simp
  | some last =>
    rw [isSubtreeBlocked_of_lastBearer? hlast, Node.isSubtreeBlocked_eq_false_iff]
    simp

/-- An identifier that no node bears counts as blocked.  Any other counts as blocked exactly if the
subtree of its last bearer in post-order holds a blocking entity.  So where identifiers differ,
every node is annotated with what one gets by recursion: a subtree is blocked if its topmost node
blocks or the subtree of a child is blocked. -/
theorem last_bearer_answers (root : Node) :
    (∀ id, id ∉ root.preorder.map Node.id → (compute root).isSubtreeBlocked id = true) ∧
      (∀ id ∈ root.preorder.map Node.id, ∃ before last after,
        root.postorder = before ++ last :: after ∧ last.id = id ∧ id ∉ after.map Node.id ∧
          ((compute root).isSubtreeBlocked id = true ↔
            ∃ below ∈ last.preorder, below.status.blocksAncestors = true)) ∧
      ((root.preorder.map Node.id).Nodup → ∀ node ∈ root.preorder,
        (compute root).isSubtreeBlocked node.id = node.isSubtreeBlocked ∧
          node.isSubtreeBlocked =
            (node.status.blocksAncestors || node.children.any Node.isSubtreeBlocked)) := by
  refine ⟨fun id => isSubtreeBlocked_compute_of_notMem, ?_, ?_⟩
  · intro id hid
    cases hlast : root.lastBearer? id with
    | none => exact absurd hid (Node.lastBearer?_eq_none_iff.mp hlast)
    | some last =>
      obtain ⟨hbears, before, after, hsplit, hafter⟩ := Node.lastBearer?_eq_some_iff.mp hlast
      refine ⟨before, last, after, hsplit, hbears, hafter, ?_⟩
      rw [isSubtreeBlocked_of_lastBearer? hlast]
      exact last.isSubtreeBlocked_eq_true_iff
  · intro hids node hnode
    have hall : (root.all.map Node.id).Nodup := by
      rw [Node.all_eq_preorder]
      exact hids
    refine ⟨Tree.isSubtreeBlocked_blocking ⟨root, hall⟩ hnode, ?_⟩
    rw [Node.isSubtreeBlocked_eq, Forest.isBlocked_eq_any]

/-- A request for placement over a booking that blocks. -/
def firstRequest : Node :=
  Sample.node (EntityId.ofNat 2) .placementRequest true
    [Sample.blockingNode (EntityId.ofNat 3) .booking []]

/-- That request, and then its identifier once more on a request over nothing. -/
def twofoldRoot : Node :=
  Sample.node (EntityId.ofNat 1) .application true
    [firstRequest, Sample.node (EntityId.ofNat 2) .placementRequest true []]

/-- The second request answers for both and takes no notice of the booking under the first.  Taken
alone, the first request answers for itself. -/
theorem second_bearer_answers :
    EntityId.ofNat 9 ∉ twofoldRoot.preorder.map Node.id ∧
      (compute twofoldRoot).isSubtreeBlocked (EntityId.ofNat 9) = true ∧
      EntityId.ofNat 2 ∈ twofoldRoot.preorder.map Node.id ∧
      (compute twofoldRoot).isSubtreeBlocked (EntityId.ofNat 2) = false ∧
      (firstRequest.preorder.map Node.id).Nodup ∧ firstRequest ∈ firstRequest.preorder ∧
      (compute firstRequest).isSubtreeBlocked firstRequest.id = true := by
  obtain ⟨hunknown, hknown, -⟩ := last_bearer_answers twofoldRoot
  obtain ⟨-, -, hdiffer⟩ := last_bearer_answers firstRequest
  have hnine : EntityId.ofNat 9 ∉ twofoldRoot.preorder.map Node.id := by decide
  have htwo : EntityId.ofNat 2 ∈ twofoldRoot.preorder.map Node.id := by decide
  have hids : (firstRequest.preorder.map Node.id).Nodup := by decide
  have hfirst : firstRequest ∈ firstRequest.preorder := firstRequest.mem_preorder_self
  refine ⟨hnine, hunknown _ hnine, htwo, ?_, hids, hfirst, ?_⟩
  · obtain ⟨before, last, after, hsplit, hbears, hafter, hanswer⟩ := hknown _ htwo
    have hlast : twofoldRoot.lastBearer? (EntityId.ofNat 2) = some last :=
      Node.lastBearer?_eq_some_iff.mpr ⟨hbears, before, after, hsplit, hafter⟩
    cases hlast
    rw [← Bool.not_eq_true, hanswer]
    decide
  · rw [(hdiffer hids firstRequest hfirst).1]
    decide

/-! ## 3.  The table of another node -/

/-- What is eligible under the table of another node are the descendants that can be withdrawn and
whose identifier has a last bearer over there with nothing in its subtree that blocks.  So what the
other node does not know is not eligible, and under the empty table nothing is.  Under the table of
the node itself, if identifiers differ, nothing over a blocking entity is eligible. -/
theorem foreign_annotations_fail_closed (root other : Node) :
    (root.eligibleDescendants (compute other) =
        (Forest.preorder root.children).filter fun node : Node =>
          node.status.withdrawable = true ∧ ∃ last ∈ other.lastBearer? node.id,
            ∀ below ∈ last.preorder, below.status.blocksAncestors = false) ∧
      (∀ node ∈ root.eligibleDescendants (compute other),
        node.id ∈ other.preorder.map Node.id) ∧
      root.eligibleDescendants empty = [] ∧
      ∀ tree, Tree.ofRoot root = .ok tree → ∀ node ∈ root.eligibleDescendants (compute root),
        ∀ below ∈ node.preorder, below.status.blocksAncestors = false := by
  have hlist : root.eligibleDescendants (compute other) =
      (Forest.preorder root.children).filter fun node : Node =>
        node.status.withdrawable = true ∧ ∃ last ∈ other.lastBearer? node.id,
          ∀ below ∈ last.preorder, below.status.blocksAncestors = false := by
    rw [Node.eligibleDescendants_eq]
    refine List.filter_congr fun node _ => decide_eq_decide.mpr ?_
    rw [Node.eligibility_eq_eligible_iff, isSubtreeBlocked_compute_eq_false_iff]
  refine ⟨hlist, ?_, ?_, ?_⟩
  · intro node hnode
    rw [hlist, List.mem_filter, decide_eq_true_iff] at hnode
    obtain ⟨-, -, last, hlast, -⟩ := hnode
    by_contra hunknown
    rw [Node.lastBearer?_eq_none_iff.mpr hunknown] at hlast
    cases hlast
  · rw [Node.eligibleDescendants_eq, List.filter_eq_nil_iff]
    intro node _ heligible
    rw [decide_eq_true_iff, Node.eligibility_eq_eligible_iff] at heligible
    have hblocked : empty.isSubtreeBlocked node.id = true := rfl
    exact absurd (hblocked.symm.trans heligible.2) (by decide)
  · rintro tree htree node hnode
    obtain rfl := Tree.root_eq_of_ofRoot htree
    exact node.isSubtreeBlocked_eq_false_iff.mp (tree.mem_eligibleDescendants_iff.mp hnode).2.2

/-- An application with a request for placement over a booking, and with a further request. -/
def earlierRoot : Node :=
  Sample.node (EntityId.ofNat 1) .application true
    [Sample.node (EntityId.ofNat 2) .placementRequest true
        [Sample.node (EntityId.ofNat 3) .booking true []],
      Sample.node (EntityId.ofNat 4) .placementApplication true []]

/-- The same application after an arrival was recorded for the booking and another booking was
made. -/
def laterRoot : Node :=
  Sample.node (EntityId.ofNat 1) .application true
    [Sample.node (EntityId.ofNat 2) .placementRequest true
        [Sample.blockingNode (EntityId.ofNat 3) .booking [],
          Sample.node (EntityId.ofNat 5) .booking true []],
      Sample.node (EntityId.ofNat 4) .placementApplication true []]

/-- Under the table of before, the booking that is new is left alone, but the arrival goes
unnoticed.  Under the table of a node with an identifier that comes up twice, too, a request over a
booking that blocks is eligible. -/
theorem eligible_under_earlier_annotations :
    (laterRoot.eligibleDescendants (compute earlierRoot)).map Node.id =
        [EntityId.ofNat 2, EntityId.ofNat 3, EntityId.ofNat 4] ∧
      (twofoldRoot.eligibleDescendants (compute twofoldRoot)).map Node.id =
        [EntityId.ofNat 2, EntityId.ofNat 2] ∧
      ∃ tree, Tree.ofRoot laterRoot = .ok tree ∧
        ∀ node ∈ laterRoot.eligibleDescendants (compute laterRoot),
          ∀ below ∈ node.preorder, below.status.blocksAncestors = false := by
  obtain ⟨hstale, -⟩ := foreign_annotations_fail_closed laterRoot earlierRoot
  obtain ⟨htwofold, -⟩ := foreign_annotations_fail_closed twofoldRoot twofoldRoot
  obtain ⟨-, -, -, hown⟩ := foreign_annotations_fail_closed laterRoot laterRoot
  have hids : (laterRoot.preorder.map Node.id).Nodup := by decide
  obtain ⟨tree, htree, -⟩ := Tree.exists_ofRoot_eq_ok hids
  refine ⟨?_, ?_, tree, htree, hown tree htree⟩
  · rw [hstale]
    decide
  · rw [htwofold]
    decide

end Annotations
end WithdrawalCascade
