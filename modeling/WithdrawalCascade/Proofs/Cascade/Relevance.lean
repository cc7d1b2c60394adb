import WithdrawalCascade.Proofs.Cascade.Handover
import WithdrawalCascade.Proofs.Profile

/-!
# What a cascade does not depend on

Whether the user may withdraw an entity directly, and for what reason an entity blocks, is
information for people.  And of the root, which has been withdrawn already, a cascade uses nothing:
not its kind or identifier, not its flags, although the flags go into the table of annotations and
into the rendering of the tree.

`Forest.Alike` says that two lists of trees differ in this information only.  Trees that are alike
below their roots list the same profiles (`Forest.Alike.map_profile`), and a cascade sees no more of
the descendants than their profiles tell (`visit_congr`).  So two cascades over such trees are one
and the same dialogue after the rendering of the tree has been told, whoever answers.
-/

namespace WithdrawalCascade

/-! ## 1.  Trees that are alike -/

mutual

/-- The nodes differ in information for people only: they have the same kind, the same identifier
and the same flags for withdrawal and blocking, and so has everything under them. -/
inductive Node.Alike : Node → Node → Prop where
  | node (kind : EntityKind) (id : EntityId) {status other : Status} {children others : List Node} :
      status.withdrawable = other.withdrawable → status.blocksAncestors = other.blocksAncestors →
      Forest.Alike children others →
      Node.Alike ⟨kind, id, status, children⟩ ⟨kind, id, other, others⟩

/-- The nodes are alike one by one. -/
inductive Forest.Alike : List Node → List Node → Prop where
  | nil : Forest.Alike [] []
  | cons {node other : Node} {rest others : List Node} :
      Node.Alike node other → Forest.Alike rest others →
      Forest.Alike (node :: rest) (other :: others)

end

mutual

/-- Blocking is the same in nodes that are alike. -/
theorem Node.Alike.isSubtreeBlocked {node other : Node} :
    Node.Alike node other → node.isSubtreeBlocked = other.isSubtreeBlocked
  | .node kind id hwithdrawable hblocks hchildren => by
    rw [Node.isSubtreeBlocked_eq, Node.isSubtreeBlocked_eq, hblocks, hchildren.isBlocked]

theorem Forest.Alike.isBlocked {nodes others : List Node} :
    Forest.Alike nodes others → Forest.isBlocked nodes = Forest.isBlocked others
  | .nil => rfl
  | .cons hnode hrest => by
    rw [Forest.isBlocked, Forest.isBlocked, hnode.isSubtreeBlocked, hrest.isBlocked]

end

mutual

/-- **Nodes that are alike list the same profiles.** -/
theorem Node.Alike.map_profile {node other : Node} :
    Node.Alike node other → node.preorder.map Node.profile = other.preorder.map Node.profile
  | .node kind id hwithdrawable hblocks hchildren => by
    have hflag := (Node.Alike.node kind id hwithdrawable hblocks hchildren).isSubtreeBlocked
    rw [Node.preorder_eq, Node.preorder_eq, List.map_cons, List.map_cons, hchildren.map_profile,
      Node.profile, Node.profile, hflag, hwithdrawable]

theorem Forest.Alike.map_profile {nodes others : List Node} :
    Forest.Alike nodes others →
      (Forest.preorder nodes).map Node.profile = (Forest.preorder others).map Node.profile
  | .nil => rfl
  | .cons hnode hrest => by
    rw [Forest.preorder_cons, Forest.preorder_cons, List.map_append, List.map_append,
      hnode.map_profile, hrest.map_profile]

end

namespace Cascade

variable {σ : Type}

/-! ## 2.  Dialogues over descendants with the same profiles -/

/-- An attempt uses the kind and the identifier of its node. -/
theorem attempt_congr (policy : MissingBookingPolicy) (context : Context) {node other : Node}
    (hkind : node.kind = other.kind) (hid : node.id = other.id) :
    attempt policy context node = attempt policy context other := by
  rw [attempt, attempt, hkind, hid]

/-- **The loop sees no more of the descendants than what is in brief.** -/
theorem visit_congr (reporting : Reporting) (policy : MissingBookingPolicy) (context : Context)
    (tally : Log.Tally) {assessed others : List (Node × Eligibility)}
    (h : assessed.map briefOf = others.map briefOf) :
    visit reporting policy context tally assessed =
      visit reporting policy context tally others := by
  induction assessed generalizing tally others with
  | nil =>
    obtain rfl : others = [] := List.map_eq_nil_iff.mp h.symm
    rfl
  | cons first rest ih =>
    cases others with
    | nil => cases h
    | cons second others =>
      obtain ⟨hfirst, hrest⟩ := List.cons.inj h
      obtain ⟨node, eligibility⟩ := first
      obtain ⟨other, reason⟩ := second
      obtain ⟨hkind, hid, hreason⟩ : node.kind = other.kind ∧ node.id = other.id ∧
          eligibility = reason := by
        simpa only [briefOf, Prod.mk.injEq] using hfirst
      subst hreason
      have hfailure : ∀ kind, Failure.of node context kind = Failure.of other context kind := by
        intro kind
        rw [Failure.of, Failure.of, hkind, hid]
      cases eligibility with
      | eligible =>
        rw [visit, visit, attempt_congr policy context hkind hid]
        refine congrArg _ (funext fun attempt => ?_)
        cases attempt with
        | completed => exact ih _ hrest
        | failed kind =>
          simp only [hfailure]
          exact congrArg _ (funext fun _ => ih _ hrest)
        | missing => simp only [hid]
      | notWithdrawable =>
        simp only [visit, hkind, hid]
        exact congrArg _ (funext fun _ => ih _ hrest)
      | blocked =>
        simp only [visit, hkind, hid]
        exact congrArg _ (funext fun _ => ih _ hrest)

/-- **One dialogue.**  After the tree has been told, cascades over trees that are alike below their
roots are one and the same. -/
theorem exists_common_dialogue (reporting : Reporting) {tree other : Tree}
    (halike : Forest.Alike tree.root.children other.root.children) (context : Context)
    (config : Config) :
    ∃ after : Dialogue (Except Fault Unit),
      withdrawDescendants reporting tree context config =
          .tell ⟨.tree tree.render, none⟩ after ∧
        withdrawDescendants reporting other context config =
          .tell ⟨.tree other.render, none⟩ after := by
  have hprofiles := halike.map_profile
  have hbrief : (tree.root.assessDescendants tree.blocking).map briefOf =
      (other.root.assessDescendants other.blocking).map briefOf := by
    rw [tree.map_brief_assessDescendants, other.map_brief_assessDescendants, hprofiles]
  have hnodes : tree.nodeCount = other.nodeCount := by
    rw [tree.nodeCount_eq_profiles, other.nodeCount_eq_profiles, hprofiles]
  have heligible : ((tree.root.assessDescendants tree.blocking).countP fun assessed =>
      assessed.2 = .eligible) =
        (other.root.assessDescendants other.blocking).countP fun assessed =>
          assessed.2 = .eligible := by
    have hcount := congrArg (List.countP fun brief => decide (brief.2.2 = Eligibility.eligible))
      hbrief
    rwa [List.countP_map, List.countP_map] at hcount
  have hvisit := visit_congr reporting config.onMissingBooking context {} hbrief
  refine ⟨_, rfl, ?_⟩
  simp only [hvisit, hnodes, heligible]
  rfl

/-! ## 3.  Two runs -/

/-- Cascades over trees that are alike below their roots have the same result, and all that happens
in them is the same, in the same order: the calls with their arguments and replies, the reports and
what is told.  Only the tree that is told first is the tree at hand. -/
theorem runs_alike_but_for_tree (reporting : Reporting) (tree other : Tree)
    (halike : Forest.Alike tree.root.children other.root.children) (context : Context)
    (config : Config) (world : World σ) (state : σ) :
    let run := (withdrawDescendants reporting tree context config).run world state
    let rerun := (withdrawDescendants reporting other context config).run world state
    run.result = rerun.result ∧ run.state = rerun.state ∧
      run.transcript.exchanges = rerun.transcript.exchanges ∧
      ∃ rest, run.transcript = .told ⟨.tree tree.render, none⟩ :: rest ∧
        rerun.transcript = .told ⟨.tree other.render, none⟩ :: rest := by
  obtain ⟨after, htree, hother⟩ := exists_common_dialogue reporting halike context config
  rw [htree, hother]
  exact ⟨rfl, rfl, rfl, _, rfl, rfl⟩

/-- The tree that is rehearsed elsewhere (`rehearsalTree`), but with a booking that blocks as its
root, and with other information for people on the descendants. -/
def disguisedTree : Tree where
  root := ⟨.booking, EntityId.ofNat 7, (Status.new false false).blocking .arrivalRecordedInDelius,
    [Sample.node (EntityId.ofNat 2) .placementRequest true
        [Sample.node (EntityId.ofNat 3) .booking true []],
      ⟨.placementApplication, EntityId.ofNat 4, Status.new true false,
        [⟨.booking, EntityId.ofNat 5, ⟨true, true, true, none⟩, []⟩]⟩,
      Sample.node (EntityId.ofNat 6) .booking false []]⟩
  ids_nodup := by
    rw [Node.all_eq_preorder]
    decide

/-- Rehearsals of the two trees cannot be told apart but by the tree that is told. -/
theorem rehearsal_in_disguise :
    let run := fun tree => (withdrawDescendants .logged tree
      (Sample.systemContext rehearsalTree.root) {}).run (StandIn.ScriptTables.script {}).world ⟨0⟩
    rehearsalTree.root.kind ≠ disguisedTree.root.kind ∧
      rehearsalTree.root.id ≠ disguisedTree.root.id ∧
      rehearsalTree.root.status ≠ disguisedTree.root.status ∧
      Forest.Alike rehearsalTree.root.children disguisedTree.root.children ∧
      (run rehearsalTree).result = (run disguisedTree).result ∧
      (run rehearsalTree).state = (run disguisedTree).state ∧
      (run rehearsalTree).transcript.exchanges = (run disguisedTree).transcript.exchanges ∧
      ∃ rest,
        (run rehearsalTree).transcript = .told ⟨.tree rehearsalTree.render, none⟩ :: rest ∧
        (run disguisedTree).transcript = .told ⟨.tree disguisedTree.render, none⟩ :: rest := by
  have hrequest : Node.Alike
      (Sample.node (EntityId.ofNat 2) .placementRequest true
        [Sample.node (EntityId.ofNat 3) .booking true []])
      (Sample.node (EntityId.ofNat 2) .placementRequest true
        [Sample.node (EntityId.ofNat 3) .booking true []]) :=
    .node _ _ rfl rfl (.cons (.node _ _ rfl rfl .nil) .nil)
  have hfurther : Node.Alike
      (Sample.node (EntityId.ofNat 4) .placementApplication true
        [Sample.blockingNode (EntityId.ofNat 5) .booking []])
      ⟨.placementApplication, EntityId.ofNat 4, Status.new true false,
        [⟨.booking, EntityId.ofNat 5, ⟨true, true, true, none⟩, []⟩]⟩ :=
    .node _ _ rfl rfl (.cons (.node _ _ rfl rfl .nil) .nil)
  have halike : Forest.Alike rehearsalTree.root.children disguisedTree.root.children :=
    .cons hrequest (.cons hfurther (.cons (.node _ _ rfl rfl .nil) .nil))
  refine ⟨by decide, by decide, by decide, halike, ?_⟩
  exact runs_alike_but_for_tree .logged rehearsalTree disguisedTree halike
    (Sample.systemContext rehearsalTree.root) {} (StandIn.ScriptTables.script {}).world ⟨0⟩

end Cascade
end WithdrawalCascade
