import Mathlib.Data.List.FinRange
import Mathlib.Data.List.Perm.Basic
import Mathlib.Logic.Relation
import WithdrawalCascade.Outline
import WithdrawalCascade.Proofs.Cascade.Handover
import WithdrawalCascade.Proofs.Cascade.MissingBooking
import WithdrawalCascade.Proofs.Descent
import WithdrawalCascade.Proofs.Reach

/-!
# The tree of an outline, and what a cascade withdraws of it

An outline is put together from its last row upwards: each row takes the nodes that hang under it
out of those that are waiting for a parent.  Read from the top, the tree of a row is its node over
the trees of the rows that hang under it, in their order (`subtree`).  Where every row but the first
hangs under a row above it (`WellFormed`), the two agree (`root?_eq_subtree`), and the tree has one
node for each row (`preorder_subtree_perm`).

Seen from a row upwards there is one way, through the row that it hangs under, to the top
(`chain`).  A row lies on the way up from another exactly if it has that other row in its tree; so
the subtree of a row is blocked exactly if the row lies on the way up from a row that blocks
(`isSubtreeBlocked_subtree_iff`).

Hence there is a way to tell from the rows what a cascade over the tree hands over, without building
the tree: go up from every row that blocks to the top, mark each row that is passed, and take the
rows but the first that can be withdrawn and are not marked (`unmarked`).  It works upwards on
positions, where the cascade works downwards on nodes; that both come to the same is
`handovers_unmarked`.
-/

namespace WithdrawalCascade
namespace Outline

/-- Whether rows make up one tree: there is a first row, which hangs under none, and every other row
hangs under a row above it. -/
structure WellFormed (rows : List Row) : Prop where
  nonempty : 0 < rows.length
  first (row : Fin rows.length) : row.val = 0 → rows[row].parent = none
  hangs (row : Fin rows.length) :
    row.val ≠ 0 → ∃ above : Fin rows.length, above < row ∧ rows[row].parent = some above.val

variable (rows : List Row)

/-! ## 1.  The tree from the top -/

/-- The positions from a given one on. -/
def positionsFrom (position : Nat) : List (Fin rows.length) :=
  (List.finRange rows.length).drop position

/-- The rows that hang under a row, in order. -/
def childRows (row : Fin rows.length) : List (Fin rows.length) :=
  (positionsFrom rows (row + 1)).filter fun below => rows[below].parent = some row.val

theorem positionsFrom_eq_cons (row : Fin rows.length) :
    positionsFrom rows row = row :: positionsFrom rows (row + 1) := by
  have hlt : row.val < (List.finRange rows.length).length := by
    rw [List.length_finRange]
    exact row.isLt
  rw [positionsFrom, positionsFrom, List.drop_eq_getElem_cons hlt, List.getElem_finRange]
  rfl

theorem mem_positionsFrom_iff {position : Nat} {row : Fin rows.length} :
    row ∈ positionsFrom rows position ↔ position ≤ row.val := by
  rw [positionsFrom, List.mem_drop_iff_getElem]
  constructor
  · rintro ⟨offset, hlt, hrow⟩
    rw [← hrow, List.getElem_finRange]
    exact Nat.le_add_right ..
  · intro hle
    have hrow := row.isLt
    refine ⟨row.val - position, ?_, ?_⟩
    · rw [List.length_finRange]
      omega
    · rw [List.getElem_finRange]
      refine Fin.ext ?_
      show position + (row.val - position) = row.val
      omega

theorem mem_childRows_iff {row below : Fin rows.length} :
    below ∈ childRows rows row ↔ row < below ∧ rows[below].parent = some row.val := by
  rw [childRows, List.mem_filter, mem_positionsFrom_iff, decide_eq_true_iff]
  exact Iff.rfl

/-- The tree of a row: its node over the trees of the rows that hang under it. -/
def subtree (row : Fin rows.length) : Node :=
  node rows[row] ((childRows rows row).attach.map fun below => subtree below.1)
termination_by rows.length - row
decreasing_by
  have hbelow := ((mem_childRows_iff rows).mp below.2).1
  omega

theorem subtree_eq (row : Fin rows.length) :
    subtree rows row = node rows[row] ((childRows rows row).map (subtree rows)) := by
  have hattach := (childRows rows row).attach_map_subtype_val
  rw [subtree, ← congrArg (List.map (subtree rows)) hattach, List.map_map]
  rfl

/-! ## 2.  The tree from the bottom -/

/-- The rows from a given position on that hang under none of these rows, in order. -/
def openRows (position : Nat) : List (Fin rows.length) :=
  (positionsFrom rows position).filter fun row =>
    rows[row].parent.all fun above => above < position

variable {rows}

theorem openRows_eq_cons (h : WellFormed rows) (row : Fin rows.length) :
    openRows rows row = row :: (positionsFrom rows (row + 1)).filter fun below =>
      rows[below].parent.all fun above => above < row.val := by
  rw [openRows, positionsFrom_eq_cons, List.filter_cons_of_pos]
  by_cases hfirst : row.val = 0
  · rw [h.first row hfirst]
    rfl
  · obtain ⟨above, habove, hparent⟩ := h.hangs row hfirst
    rw [hparent]
    exact decide_eq_true habove

/-- Of the rows behind `row` that are open, those that hang under it are its children. -/
theorem filter_child_openRows (row : Fin rows.length) :
    (openRows rows (row + 1)).filter (fun below => rows[below].parent = some row.val) =
      childRows rows row := by
  rw [openRows, List.filter_filter, childRows]
  refine List.filter_congr fun below _ => ?_
  cases hparent : rows[below].parent with
  | none => rfl
  | some above =>
    simp only [Option.all_some, Option.some.injEq, ← Bool.decide_and, decide_eq_decide]
    omega

/-- The others stay open. -/
theorem filter_other_openRows (row : Fin rows.length) :
    (openRows rows (row + 1)).filter (fun below => rows[below].parent ≠ some row.val) =
      (positionsFrom rows (row + 1)).filter fun below =>
        rows[below].parent.all fun above => above < row.val := by
  rw [openRows, List.filter_filter]
  refine List.filter_congr fun below _ => ?_
  cases hparent : rows[below].parent with
  | none => simp
  | some above =>
    simp only [Option.all_some, ne_eq, Option.some.injEq, ← Bool.decide_and, decide_eq_decide]
    omega

/-- **What the rows from a position on come to**: the trees of those that are still open. -/
theorem assemble_drop (h : WellFormed rows) (position : Nat) :
    assemble position (rows.drop position) =
      (openRows rows position).map fun row => (rows[row].parent, subtree rows row) := by
  generalize hlater : rows.drop position = later
  induction later generalizing position with
  | nil =>
    have hempty : positionsFrom rows position = [] := by
      rw [positionsFrom, List.drop_eq_nil_iff, List.length_finRange]
      exact List.drop_eq_nil_iff.mp hlater
    rw [openRows, hempty]
    rfl
  | cons row later ih =>
    have hlt : position < rows.length := by
      rw [← List.drop_eq_nil_iff.not.trans not_le, hlater]
      exact List.cons_ne_nil row later
    rw [List.drop_eq_getElem_cons hlt, List.cons.injEq] at hlater
    obtain ⟨rfl, hlater⟩ := hlater
    have hpending := ih (position + 1) hlater
    have hchildren := filter_child_openRows (⟨position, hlt⟩ : Fin rows.length)
    have hothers := filter_other_openRows (⟨position, hlt⟩ : Fin rows.length)
    have hopen := openRows_eq_cons h ⟨position, hlt⟩
    rw [assemble, hpending, List.filter_map, List.filter_map, hopen, List.map_cons, subtree_eq,
      ← hchildren, ← hothers, List.map_map]
    rfl

theorem openRows_first (h : WellFormed rows) {first : Fin rows.length} (hfirst : first.val = 0) :
    openRows rows 0 = [first] := by
  have hopen := openRows_eq_cons h first
  rw [hfirst] at hopen
  rw [hopen, List.cons.injEq, List.filter_eq_nil_iff]
  refine ⟨rfl, fun below hbelow => ?_⟩
  have hlater := (mem_positionsFrom_iff rows).mp hbelow
  obtain ⟨above, -, hparent⟩ := h.hangs below (by omega)
  rw [hparent]
  simp

/-- **The tree of an outline** is the tree of its first row. -/
theorem root?_eq_subtree (h : WellFormed rows) {first : Fin rows.length} (hfirst : first.val = 0) :
    root? rows = some (subtree rows first) := by
  have hall := assemble_drop h 0
  rw [List.drop_zero, openRows_first h hfirst] at hall
  rw [root?, hall]
  rfl

/-- The trees of the open rows are made up of one node for each row. -/
theorem preorder_openRows_perm (h : WellFormed rows) (position : Nat) :
    (Forest.preorder ((openRows rows position).map (subtree rows))).Perm
      ((positionsFrom rows position).map (subtree rows)) := by
  induction hlater : rows.length - position generalizing position with
  | zero =>
    have hempty : positionsFrom rows position = [] := by
      rw [positionsFrom, List.drop_eq_nil_iff, List.length_finRange]
      omega
    rw [openRows, hempty]
    exact .refl _
  | succ later ih =>
    have hlt : position < rows.length := by omega
    have hopen := openRows_eq_cons h ⟨position, hlt⟩
    have hpositions := positionsFrom_eq_cons rows ⟨position, hlt⟩
    have hpending := ih (position + 1) (by omega)
    -- the rows that were open are the children of this row and those that stay open
    have hsplit := List.filter_append_perm
      (fun below : Fin rows.length => decide (rows[below].parent = some position))
      (openRows rows (position + 1))
    have hbelow := ((hsplit.map (subtree rows)).flatMap_right Node.preorder).trans
      (Forest.preorder_eq_flatMap _ ▸ hpending)
    rw [List.map_append, List.flatMap_append, ← Forest.preorder_eq_flatMap,
      ← Forest.preorder_eq_flatMap] at hbelow
    simp only [← decide_not] at hbelow
    rw [hopen, hpositions, List.map_cons, List.map_cons, Forest.preorder_cons, Node.preorder_eq,
      ← filter_other_openRows, List.cons_append, subtree_eq, ← filter_child_openRows]
    exact hbelow.cons _

/-- **One node for each row.** -/
theorem preorder_subtree_perm (h : WellFormed rows) {first : Fin rows.length}
    (hfirst : first.val = 0) :
    (subtree rows first).preorder.Perm ((List.finRange rows.length).map (subtree rows)) := by
  have hall := preorder_openRows_perm h 0
  rwa [openRows_first h hfirst, List.map_singleton, Forest.preorder_cons, Forest.preorder_nil,
    List.append_nil, positionsFrom, List.drop_zero] at hall

/-- Below the first row, one node for each other row. -/
theorem preorder_children_perm (h : WellFormed rows) {first : Fin rows.length}
    (hfirst : first.val = 0) :
    (Forest.preorder (subtree rows first).children).Perm
      ((positionsFrom rows 1).map (subtree rows)) := by
  have hall := preorder_subtree_perm h hfirst
  have hpositions := positionsFrom_eq_cons rows first
  rw [hfirst, positionsFrom, List.drop_zero] at hpositions
  rw [Node.preorder_eq, hpositions, List.map_cons] at hall
  exact hall.cons_inv

/-! ## 3.  The way up -/

variable (rows)

/-- The row that a row hangs under. -/
def above? (row : Fin rows.length) : Option (Fin rows.length) :=
  rows[row].parent.bind fun above =>
    if h : above < row.val then some ⟨above, h.trans row.isLt⟩ else none

theorem above?_eq_some_iff {row above : Fin rows.length} :
    above? rows row = some above ↔ above < row ∧ rows[row].parent = some above.val := by
  rw [above?, Option.bind_eq_some_iff]
  constructor
  · rintro ⟨position, hparent, hposition⟩
    obtain ⟨hlt, hsome⟩ := Option.dite_none_right_eq_some.mp hposition
    cases hsome
    exact ⟨hlt, hparent⟩
  · rintro ⟨hlt, hparent⟩
    exact ⟨above.val, hparent, dif_pos hlt⟩

theorem mem_childRows_iff_above? {row below : Fin rows.length} :
    below ∈ childRows rows row ↔ above? rows below = some row := by
  rw [mem_childRows_iff, above?_eq_some_iff]

/-- A row, the row that it hangs under, and so on up to the top. -/
def chain (row : Fin rows.length) : List (Fin rows.length) :=
  match habove : above? rows row with
  | some above =>
    have : above < row := ((above?_eq_some_iff rows).mp habove).1
    row :: chain above
  | none => [row]
termination_by row.val

/-- What lies on the way up is what can be reached step by step. -/
theorem mem_chain_iff {row above : Fin rows.length} :
    above ∈ chain rows row ↔
      Relation.ReflTransGen (fun below next => above? rows below = some next) row above := by
  fun_induction chain rows row with
  | case1 row next hnext hlt ih =>
    rw [List.mem_cons, ih, Relation.ReflTransGen.cases_head_iff (a := row), hnext]
    simp [eq_comm]
  | case2 row hnone =>
    rw [List.mem_singleton, Relation.ReflTransGen.cases_head_iff, hnone]
    simp [eq_comm]

/-- **The subtree of a row is blocked exactly if the row lies on the way up from a row that
blocks.** -/
theorem isSubtreeBlocked_subtree_iff (row : Fin rows.length) :
    (subtree rows row).isSubtreeBlocked = true ↔
      ∃ blocking : Fin rows.length, rows[blocking].status.blocksAncestors = true ∧
        row ∈ chain rows blocking := by
  induction row using subtree.induct rows with
  | case1 row ih =>
    rw [subtree_eq, Node.isSubtreeBlocked_eq, Bool.or_eq_true, Forest.isBlocked_eq_any,
      List.any_eq_true]
    constructor
    · rintro (hblocks | ⟨_, hchild, hblocked⟩)
      · exact ⟨row, hblocks, (mem_chain_iff rows).mpr .refl⟩
      · obtain ⟨below, hbelow, rfl⟩ := List.mem_map.mp hchild
        obtain ⟨blocking, hblocks, hchain⟩ := (ih ⟨below, hbelow⟩).mp hblocked
        refine ⟨blocking, hblocks, (mem_chain_iff rows).mpr ?_⟩
        exact ((mem_chain_iff rows).mp hchain).tail ((mem_childRows_iff_above? rows).mp hbelow)
    · rintro ⟨blocking, hblocks, hchain⟩
      rcases ((mem_chain_iff rows).mp hchain).cases_tail with rfl | ⟨below, hreach, hstep⟩
      · exact .inl hblocks
      · -- the way up comes to the row from one that hangs under it
        have hbelow := (mem_childRows_iff_above? rows).mpr hstep
        refine .inr ⟨subtree rows below, List.mem_map_of_mem hbelow, ?_⟩
        exact (ih ⟨below, hbelow⟩).mpr ⟨blocking, hblocks, (mem_chain_iff rows).mpr hreach⟩

/-! ## 4.  Marks -/

/-- The rows that are passed on the ways up from all rows that block. -/
def marked (rows : List Row) : List (Fin rows.length) :=
  ((List.finRange rows.length).filter fun row => rows[row].status.blocksAncestors).flatMap
    (chain rows)

/-- The rows but the first that can be withdrawn and are not marked. -/
def unmarked (rows : List Row) : List (Fin rows.length) :=
  (positionsFrom rows 1).filter fun row => rows[row].status.withdrawable ∧ row ∉ marked rows

/-- The identifiers of the rows that can be withdrawn and are not marked. -/
def unmarkedIds (rows : List Row) : List EntityId :=
  (unmarked rows).map fun row => rows[row].id

variable {rows}

/-- A row is marked exactly if its subtree is blocked. -/
theorem mem_marked_iff (row : Fin rows.length) :
    row ∈ marked rows ↔ (subtree rows row).isSubtreeBlocked = true := by
  rw [marked, List.mem_flatMap, isSubtreeBlocked_subtree_iff]
  simp only [List.mem_filter, List.mem_finRange, true_and]

theorem subtree_id (row : Fin rows.length) : (subtree rows row).id = rows[row].id := by
  rw [subtree_eq]
  rfl

theorem subtree_kind (row : Fin rows.length) : (subtree rows row).kind = rows[row].kind := by
  rw [subtree_eq]
  rfl

theorem subtree_status (row : Fin rows.length) : (subtree rows row).status = rows[row].status := by
  rw [subtree_eq]
  rfl

/-- The tree bears the identifiers of the rows. -/
theorem ids_subtree_perm (h : WellFormed rows) {first : Fin rows.length} (hfirst : first.val = 0) :
    ((subtree rows first).preorder.map Node.id).Perm (rows.map Row.id) := by
  have hids := (preorder_subtree_perm h hfirst).map Node.id
  have hrows : (List.finRange rows.length).map (fun row => (subtree rows row).id) =
      ((List.finRange rows.length).map rows.get).map Row.id := by
    rw [List.map_map]
    exact List.map_congr_left fun row _ => subtree_id row
  rw [List.map_get_finRange] at hrows
  rw [List.map_map] at hids
  exact hids.trans (.of_eq hrows)

/-- The nodes that can be withdrawn over subtrees in which nothing blocks are those of the unmarked
rows. -/
theorem eligible_subtree_perm (h : WellFormed rows) {first : Fin rows.length}
    (hfirst : first.val = 0) {tree : Tree} (hroot : tree.root = subtree rows first) :
    (tree.root.eligibleDescendants tree.blocking).Perm ((unmarked rows).map (subtree rows)) := by
  have hselected := (preorder_children_perm h hfirst).filter fun node =>
    decide (node.status.withdrawable = true ∧
      ∀ below ∈ node.preorder, below.status.blocksAncestors = false)
  rw [← hroot, ← tree.eligibleDescendants_eq_filter, List.filter_map] at hselected
  refine hselected.trans (.of_eq ?_)
  rw [unmarked]
  refine congrArg (List.map (subtree rows)) (List.filter_congr fun row _ => ?_)
  rw [Function.comp_apply, decide_eq_decide, subtree_status, mem_marked_iff,
    ← Node.isSubtreeBlocked_eq_false_iff, Bool.not_eq_true]

/-- The eligible descendants bear the identifiers of the unmarked rows. -/
theorem ids_eligible_perm (h : WellFormed rows) {first : Fin rows.length} (hfirst : first.val = 0)
    {tree : Tree} (hroot : tree.root = subtree rows first) :
    ((tree.root.eligibleDescendants tree.blocking).map Node.id).Perm (unmarkedIds rows) := by
  have hids := (eligible_subtree_perm h hfirst hroot).map Node.id
  rw [List.map_map] at hids
  exact hids.trans (.of_eq (List.map_congr_left fun row _ => subtree_id row))

/-- No eligible descendant is an application if only the first row is one. -/
theorem kind_ne_application_of_mem_eligible (h : WellFormed rows) {first : Fin rows.length}
    (hfirst : first.val = 0) {tree : Tree} (hroot : tree.root = subtree rows first)
    (hkinds : ∀ row : Fin rows.length, rows[row].kind = .application ↔ row.val = 0) {node : Node}
    (hnode : node ∈ tree.root.eligibleDescendants tree.blocking) : node.kind ≠ .application := by
  have hmem := (eligible_subtree_perm h hfirst hroot).subset hnode
  obtain ⟨row, hrow, rfl⟩ := List.mem_map.mp hmem
  have hlater := (mem_positionsFrom_iff rows).mp (List.mem_of_mem_filter hrow)
  rw [subtree_kind]
  exact fun hkind => absurd ((hkinds row).mp hkind) (by omega)

/-! ## 5.  The cascade over an outline -/

/-- Let rows make up one tree, with an application in the first row and no other application, and
let their identifiers differ.  Then the tree that is built from them is the one of the first row,
with a node for each row; it is accepted; and a cascade over it in which no look-up comes back
without a booking succeeds and hands over, each once, the entities of exactly those rows but the
first that can be withdrawn and are not passed on a way up from a row that blocks. -/
theorem handovers_unmarked (rows : List Row) (hrows : WellFormed rows)
    (hkinds : ∀ row : Fin rows.length, rows[row].kind = .application ↔ row.val = 0)
    (hids : (rows.map Row.id).Nodup) :
    ∃ (first : Fin rows.length) (tree : Tree), first.val = 0 ∧
      root? rows = some (subtree rows first) ∧ Tree.ofRoot (subtree rows first) = .ok tree ∧
      tree.root = subtree rows first ∧ tree.nodeCount = rows.length ∧
      (tree.root.all.map Node.id).Perm (rows.map Row.id) ∧
      ∀ (reporting : Cascade.Reporting) (context : Context) (config : Config) {σ : Type}
        (world : World σ) (state : σ),
        let run :=
          (Cascade.withdrawDescendants reporting tree context config).run world state
        (∀ id, .exchange (.findBooking id) (.ok none) ∉ run.transcript) →
        run.result = .ok () ∧ (run.transcript.handovers.map Prod.snd).Nodup ∧
          (run.transcript.handovers.map Prod.snd).Perm (unmarkedIds rows) := by
  have hperm := ids_subtree_perm hrows (rfl : (⟨0, hrows.nonempty⟩ : Fin rows.length).val = 0)
  obtain ⟨tree, htree, hroot⟩ := Tree.exists_ofRoot_eq_ok (hperm.nodup_iff.mpr hids)
  refine ⟨⟨0, hrows.nonempty⟩, tree, rfl, root?_eq_subtree hrows rfl, htree, hroot, ?_, ?_, ?_⟩
  · rw [tree.nodeCount_eq_size, ← Node.length_preorder, hroot]
    have hlength := hperm.length_eq
    rwa [List.length_map, List.length_map] at hlength
  · rw [Node.all_eq_preorder, hroot]
    exact hperm
  · intro reporting context config σ world state run hfound
    have hcourse := Cascade.course_run reporting tree context config world state
    have hresult : run.result = .ok () := by
      rcases hrun : run.result with fault | ⟨⟩
      · obtain ⟨-, node, -, -, habsent⟩ := hcourse.exists_error_iff.mp ⟨fault, hrun⟩
        exact absurd habsent (hfound node.id)
      · rfl
    have hhandovers : run.transcript.handovers.map Prod.snd =
        (tree.root.eligibleDescendants tree.blocking).map Node.id := by
      rw [hcourse.handovers_eq, hcourse.map_fst_attempts_of_ok hresult, List.map_map,
        List.filter_eq_self.mpr]
      · rfl
      · intro node hnode
        exact decide_eq_true
          (kind_ne_application_of_mem_eligible hrows rfl hroot hkinds hnode)
    rw [hhandovers]
    exact ⟨hresult, tree.nodup_eligible_ids, ids_eligible_perm hrows rfl hroot⟩

/-- An application with two requests, one over a booking and one over a booking for which an arrival
is recorded, and a booking under the first request that cannot be withdrawn. -/
def rehearsalRows : List Row :=
  [⟨.application, EntityId.ofNat 1, Status.new true true, none⟩,
    ⟨.placementRequest, EntityId.ofNat 2, Status.new true true, some 0⟩,
    ⟨.placementApplication, EntityId.ofNat 3, Status.new true true, some 0⟩,
    ⟨.booking, EntityId.ofNat 4, (Status.new true false).blocking .arrivalRecordedInCas1, some 2⟩,
    ⟨.booking, EntityId.ofNat 5, Status.new true false, some 1⟩,
    ⟨.booking, EntityId.ofNat 6, Status.new false false, some 1⟩]

theorem rehearsalRows_wellFormed : WellFormed rehearsalRows where
  nonempty := by decide
  first := by decide
  hangs := by decide

/-- In a rehearsal in which every booking is found, the first request and its booking are handed
over: the other request stands above the booking that blocks. -/
theorem handovers_of_rehearsalRows :
    WellFormed rehearsalRows ∧
      (∀ row : Fin rehearsalRows.length,
        rehearsalRows[row].kind = .application ↔ row.val = 0) ∧
      (rehearsalRows.map Row.id).Nodup ∧
      ∃ tree : Tree, root? rehearsalRows = some tree.root ∧ tree.nodeCount = 6 ∧
        let run := (Cascade.withdrawDescendants .plain tree (Sample.systemContext tree.root) {}).run
          (StandIn.ScriptTables.script {}).world ⟨0⟩
        run.result = .ok () ∧
          (run.transcript.handovers.map Prod.snd).Perm [EntityId.ofNat 2, EntityId.ofNat 5] := by
  have hkinds : ∀ row : Fin rehearsalRows.length,
      rehearsalRows[row].kind = .application ↔ row.val = 0 := by decide
  have hids : (rehearsalRows.map Row.id).Nodup := by decide
  obtain ⟨first, tree, -, hbuilt, -, hroot, hcount, -, hruns⟩ :=
    handovers_unmarked rehearsalRows rehearsalRows_wellFormed hkinds hids
  refine ⟨rehearsalRows_wellFormed, hkinds, hids, tree, hroot ▸ hbuilt, hcount, ?_⟩
  have hunmarked : unmarkedIds rehearsalRows = [EntityId.ofNat 2, EntityId.ofNat 5] := by cbv
  obtain ⟨hresult, -, hhandovers⟩ := hruns .plain (Sample.systemContext tree.root) {}
    (StandIn.ScriptTables.script {}).world ⟨0⟩ (by
      intro id hmem
      -- an empty table has every booking found
      obtain ⟨later, -, hreply⟩ := World.Reaches.start.exists_answer hmem
      cases hreply)
  exact ⟨hresult, hunmarked ▸ hhandovers⟩

end Outline
end WithdrawalCascade
