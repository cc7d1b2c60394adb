import WithdrawalCascade.Proofs.Descent
import WithdrawalCascade.Proofs.EntityId
import WithdrawalCascade.Tree.Rendering

/-!
# The lines of a rendered tree

A tree is rendered by recursion, one level deeper for what depends on a node.  Its descendants are
listed by a loop over a stack that knows of no levels.  Here the two are brought together.  The
depth of a node is said without either of them: it is the number of nodes of the tree that the node
lies under (`Tree.depth`).

* `Node.lines_eq_map`: where identifiers differ, the lines are those of the nodes in pre-order, each
  indented by the number of nodes above it.
* `Tree.render_lines`: the text of a tree is made of these lines, as many as there are nodes, and
  they end where a line feed is and nowhere else.
-/

namespace WithdrawalCascade

/-! ## 1.  A text as its lines -/

mutual

/-- The lines of a node at the given depth and of all nodes under it. -/
def Node.lines (depth : Nat) : Node → List (List Char)
  | ⟨kind, id, status, children⟩ =>
    Node.lineChars depth ⟨kind, id, status, children⟩ :: Forest.lines (depth + 1) children

/-- The lines of some nodes at one depth, each with those of the nodes under it. -/
def Forest.lines (depth : Nat) : List Node → List (List Char)
  | [] => []
  | node :: rest => node.lines depth ++ Forest.lines depth rest

end

theorem Node.lines_eq (depth : Nat) (node : Node) :
    node.lines depth = node.lineChars depth :: Forest.lines (depth + 1) node.children := by
  cases node
  rw [Node.lines]

@[simp] theorem Forest.lines_nil (depth : Nat) : Forest.lines depth [] = [] := by
  rw [Forest.lines]

@[simp] theorem Forest.lines_cons (depth : Nat) (node : Node) (rest : List Node) :
    Forest.lines depth (node :: rest) = node.lines depth ++ Forest.lines depth rest := by
  rw [Forest.lines]

mutual

/-- The lines of a subtree are lines of nodes, none less deep than the topmost node. -/
theorem Node.exists_of_mem_lines {depth : Nat} {line : List Char} :
    (node : Node) → line ∈ node.lines depth →
      ∃ level below, depth ≤ level ∧ line = Node.lineChars level below
  | ⟨kind, id, status, children⟩, hline => by
    rw [Node.lines, List.mem_cons] at hline
    rcases hline with rfl | hline
    · exact ⟨depth, _, Nat.le_refl depth, rfl⟩
    · obtain ⟨level, below, hlevel, rfl⟩ := Forest.exists_of_mem_lines children hline
      exact ⟨level, below, Nat.le_of_succ_le hlevel, rfl⟩

theorem Forest.exists_of_mem_lines {depth : Nat} {line : List Char} :
    (nodes : List Node) → line ∈ Forest.lines depth nodes →
      ∃ level below, depth ≤ level ∧ line = Node.lineChars level below
  | [], hline => by
    rw [Forest.lines_nil] at hline
    exact absurd hline List.not_mem_nil
  | node :: rest, hline => by
    rw [Forest.lines_cons, List.mem_append] at hline
    rcases hline with hline | hline
    · exact Node.exists_of_mem_lines node hline
    · exact Forest.exists_of_mem_lines rest hline

end

mutual

/-- The rendering is the lines in turn, each ended by a line feed. -/
theorem Node.renderChars_eq_flatMap (depth : Nat) :
    (node : Node) → node.renderChars depth = (node.lines depth).flatMap (· ++ ['\n'])
  | ⟨kind, id, status, children⟩ => by
    rw [Node.renderChars, Node.lines, List.flatMap_cons,
      Forest.renderChars_eq_flatMap (depth + 1) children, List.append_assoc, List.singleton_append]

theorem Forest.renderChars_eq_flatMap (depth : Nat) :
    (nodes : List Node) →
      Forest.renderChars depth nodes = (Forest.lines depth nodes).flatMap (· ++ ['\n'])
  | [] => by rw [Forest.renderChars, Forest.lines_nil, List.flatMap_nil]
  | node :: rest => by
    rw [Forest.renderChars, Forest.lines_cons, List.flatMap_append,
      Node.renderChars_eq_flatMap depth node, Forest.renderChars_eq_flatMap depth rest]

end

theorem Tree.toList_render (tree : Tree) :
    tree.render.toList = (tree.root.lines 0).flatMap (· ++ ['\n']) := by
  rw [Tree.render, String.toList_ofList, Node.renderChars_eq_flatMap]

/-- The mark of a block, with its reason if there is one. -/
theorem Status.blockChars_eq (status : Status) :
    status.blockChars =
      if status.blocksAncestors then
        ", BLOCKING".toList ++ status.blockingReason.elim [] fun reason =>
          " (".toList ++ reason.name.toList ++ [')']
      else [] := by
  -- a rewrite with the equation of the definition would spell the texts out
  unfold blockChars
  cases status.blockingReason with
  | none => exact Eq.refl _
  | some reason => exact Eq.refl _

/-- The end of a line, written out: a letter for each of two flags, and the mark of a block. -/
theorem Status.lineChars_eq (status : Status) :
    status.lineChars =
      ", withdrawable:".toList ++ (if status.withdrawable then 'Y' else 'N') ::
        ", mayDirectlyWithdraw:".toList ++ (if status.mayDirectlyWithdraw then 'Y' else 'N') ::
        if status.blocksAncestors then
          ", BLOCKING".toList ++ status.blockingReason.elim [] fun reason =>
            " (".toList ++ reason.name.toList ++ [')']
        else [] := by
  unfold lineChars flagChar
  rw [blockChars_eq]

/-! ## 2.  No line is broken -/

theorem EntityId.lineFeed_notMem_hyphenated (id : EntityId) : '\n' ∉ id.hyphenated := by
  intro h
  rcases eq_hyphen_or_digit_of_mem_hyphenated h with hmark | ⟨digit, hdigit, hchar⟩
  · exact absurd hmark (by decide)
  · have hall : ∀ value : Fin 16, '\n' ≠ Nat.digitChar value := by decide
    exact hall ⟨digit, hdigit⟩ hchar

/-- The name of a kind consists of letters. -/
theorem EntityKind.notMem_name (kind : EntityKind) {mark : Char} (hmark : mark.isAlpha = false) :
    mark ∉ kind.name.toList := by
  have hletters : kind.name.toList.all Char.isAlpha = true := by
    cases kind <;> rfl
  intro hmem
  rw [List.all_eq_true.mp hletters mark hmem] at hmark
  cases hmark

theorem Status.lineFeed_notMem_lineChars (status : Status) : '\n' ∉ status.lineChars := by
  obtain ⟨withdrawable, may, blocks, reason⟩ := status
  rcases reason with _ | _ | _ <;> revert withdrawable may blocks <;> decide

/-- **A line holds no line feed.** -/
theorem Node.lineFeed_notMem_lineChars (depth : Nat) (node : Node) :
    '\n' ∉ node.lineChars depth := by
  have hspace : '\n' ≠ ' ' := by decide
  rw [Node.lineChars, List.mem_append, List.mem_append, List.mem_append, List.mem_cons]
  rintro (((hindent | hname) | hgap | hid) | hstatus)
  · exact hspace (List.eq_of_mem_replicate hindent)
  · exact node.kind.notMem_name (by decide) hname
  · exact hspace hgap
  · exact node.id.lineFeed_notMem_hyphenated hid
  · exact node.status.lineFeed_notMem_lineChars hstatus

theorem Node.lineFeed_notMem_of_mem_lines {depth : Nat} {node : Node} {line : List Char}
    (hline : line ∈ node.lines depth) : '\n' ∉ line := by
  obtain ⟨level, below, -, rfl⟩ := node.exists_of_mem_lines hline
  exact lineFeed_notMem_lineChars level below

/-! ## 3.  Depth -/

/-- How many of the nodes have the identifier somewhere under them. -/
def countAbove (nodes : List Node) (id : EntityId) : Nat :=
  nodes.countP fun above => id ∈ (Forest.preorder above.children).map Node.id

theorem countAbove_append (nodes others : List Node) (id : EntityId) :
    countAbove (nodes ++ others) id = countAbove nodes id + countAbove others id :=
  List.countP_append

/-- A node counts if it has the identifier under it. -/
theorem countAbove_cons (node : Node) (rest : List Node) (id : EntityId) :
    countAbove (node :: rest) id = countAbove rest id +
      if id ∈ (Forest.preorder node.children).map Node.id then 1 else 0 := by
  rw [countAbove, List.countP_cons, countAbove]
  simp only [decide_eq_true_iff]

/-- What is not listed lies under nothing that is. -/
theorem Forest.countAbove_eq_zero {nodes : List Node} {id : EntityId}
    (h : id ∉ (Forest.preorder nodes).map Node.id) : countAbove (Forest.preorder nodes) id = 0 := by
  rw [countAbove, List.countP_eq_zero]
  intro above habove hunder
  obtain ⟨below, hbelow, rfl⟩ := List.mem_map.mp (of_decide_eq_true hunder)
  exact h (List.mem_map_of_mem (Forest.mem_preorder_of_above habove hbelow))

theorem Node.countAbove_eq_zero {node : Node} {id : EntityId} (h : id ∉ node.preorder.map Node.id) :
    countAbove node.preorder id = 0 := by
  have halone : Forest.preorder [node] = node.preorder := by
    rw [Forest.preorder_cons, Forest.preorder_nil, List.append_nil]
  rw [← halone] at h ⊢
  exact Forest.countAbove_eq_zero h

mutual

/-- **Lines in pre-order.**  Where identifiers differ, the lines of a node and all nodes under it
are those of the nodes in pre-order, each as deep as there are nodes above it. -/
theorem Node.lines_eq_map (depth : Nat) :
    (node : Node) → (node.preorder.map Node.id).Nodup →
      node.lines depth = node.preorder.map fun below =>
        below.lineChars (depth + countAbove node.preorder below.id)
  | ⟨kind, id, status, children⟩, hids => by
    rw [Node.preorder_eq, List.map_cons, List.nodup_cons] at hids
    obtain ⟨hid, hchildren⟩ := hids
    rw [Node.lines_eq, Node.preorder_eq, List.map_cons,
      Forest.lines_eq_map (depth + 1) children hchildren]
    congr 1
    · -- the topmost node lies under none
      rw [countAbove_cons, Forest.countAbove_eq_zero hid, if_neg hid, Nat.add_zero]
    · -- all others lie under it
      refine List.map_congr_left fun below hbelow => ?_
      rw [countAbove_cons, if_pos (List.mem_map_of_mem hbelow), Nat.add_assoc, Nat.add_comm 1]

theorem Forest.lines_eq_map (depth : Nat) :
    (nodes : List Node) → ((Forest.preorder nodes).map Node.id).Nodup →
      Forest.lines depth nodes = (Forest.preorder nodes).map fun below =>
        below.lineChars (depth + countAbove (Forest.preorder nodes) below.id)
  | [], _ => by rw [Forest.lines_nil, Forest.preorder_nil, List.map_nil]
  | node :: rest, hids => by
    rw [Forest.preorder_cons, List.map_append, List.nodup_append] at hids
    obtain ⟨hnode, hrest, hapart⟩ := hids
    rw [Forest.lines_cons, Forest.preorder_cons, List.map_append,
      Node.lines_eq_map depth node hnode, Forest.lines_eq_map depth rest hrest]
    -- A node in one of the two listings lies under nothing in the other.
    congr 1
    · refine List.map_congr_left fun below hbelow => ?_
      have hother : below.id ∉ (Forest.preorder rest).map Node.id := fun hmem =>
        hapart _ (List.mem_map_of_mem hbelow) _ hmem rfl
      rw [countAbove_append, Forest.countAbove_eq_zero hother, Nat.add_zero]
    · refine List.map_congr_left fun below hbelow => ?_
      have hother : below.id ∉ node.preorder.map Node.id := fun hmem =>
        hapart _ hmem _ (List.mem_map_of_mem hbelow) rfl
      rw [countAbove_append, Node.countAbove_eq_zero hother, Nat.zero_add]

end

namespace Tree

/-- How many nodes of the tree a node lies under. -/
def depth (tree : Tree) (node : Node) : Nat :=
  countAbove tree.root.preorder node.id

/-- The text of a tree consists of as many lines as the tree has nodes, each ended by a line feed,
and there is no other line feed in it.  The lines are those of the root and its descendants, in the
order in which these are listed: two spaces for each level, the kind, the identifier, then `Y` or
`N` for whether the entity can be withdrawn and for whether the user may do so directly, and for an
entity that blocks a mark, with the reason if there is one. -/
theorem render_lines (tree : Tree) :
    ∃ lines : List (List Char),
      tree.render.toList = lines.flatMap (· ++ ['\n']) ∧
      lines.length = tree.nodeCount ∧
      (∀ line ∈ lines, '\n' ∉ line) ∧
      lines = (tree.root :: tree.root.descendants).map fun node =>
        List.replicate (2 * tree.depth node) ' ' ++ node.kind.name.toList ++
          ' ' :: node.id.hyphenated ++
          (", withdrawable:".toList ++ (if node.status.withdrawable then 'Y' else 'N') ::
            ", mayDirectlyWithdraw:".toList ++
              (if node.status.mayDirectlyWithdraw then 'Y' else 'N') ::
            if node.status.blocksAncestors then
              ", BLOCKING".toList ++ node.status.blockingReason.elim [] fun reason =>
                " (".toList ++ reason.name.toList ++ [')']
            else []) := by
  have hlines := Node.lines_eq_map 0 tree.root tree.nodup_preorder_ids
  refine ⟨tree.root.lines 0, tree.toList_render, ?_,
    fun line => Node.lineFeed_notMem_of_mem_lines, ?_⟩
  · rw [hlines, List.length_map, Node.length_preorder, nodeCount_eq_size]
  · rw [hlines, Node.descendants_eq_preorder, ← Node.preorder_eq]
    refine List.map_congr_left fun node _ => ?_
    rw [Nat.zero_add, Node.lineChars, Status.lineChars_eq, depth]

end Tree
end WithdrawalCascade
