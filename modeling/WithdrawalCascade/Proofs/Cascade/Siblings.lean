import WithdrawalCascade.Proofs.Cascade.Handover
import WithdrawalCascade.Proofs.Profile
import WithdrawalCascade.Proofs.StandIn.Keeping

/-!
# The order of siblings

A cascade takes siblings in the order of the builder, but nothing depends on that order.  Let the
children of any number of nodes be put into another order (`Node.Rearranged`).  No identifier comes
up that was not there, so the tree is accepted still, and every node has the blocking and the
eligibility that it had.

What the two trees list are the same profiles in different orders (`Node.Rearranged.perm_profile`).
If the collaborators are steady and no missing booking ends the cascade, what is done about a node
is a matter of its profile, whatever was done before (`run_of_quiet`).  So the two cascades make the
same calls and report the same failures, in different orders.
-/

namespace WithdrawalCascade

/-! ## 1.  Trees with siblings in another order -/

mutual

/-- The second node is the first one with the children of any number of nodes in it put into another
order. -/
inductive Node.Rearranged : Node → Node → Prop where
  | node (kind : EntityKind) (id : EntityId) (status : Status) {children others : List Node} :
      Forest.Rearranged children others →
      Node.Rearranged ⟨kind, id, status, children⟩ ⟨kind, id, status, others⟩

/-- The second nodes are the first ones in any order, each one rearranged. -/
inductive Forest.Rearranged : List Node → List Node → Prop where
  | nil : Forest.Rearranged [] []
  | cons {node other : Node} {rest others : List Node} :
      Node.Rearranged node other → Forest.Rearranged rest others →
      Forest.Rearranged (node :: rest) (other :: others)
  | swap (first second : Node) (rest : List Node) :
      Forest.Rearranged (first :: second :: rest) (second :: first :: rest)
  | trans {nodes between others : List Node} :
      Forest.Rearranged nodes between → Forest.Rearranged between others →
      Forest.Rearranged nodes others

end

mutual

theorem Node.Rearranged.refl : (node : Node) → Node.Rearranged node node
  | ⟨kind, id, status, children⟩ => .node kind id status (Forest.Rearranged.refl children)

theorem Forest.Rearranged.refl : (nodes : List Node) → Forest.Rearranged nodes nodes
  | [] => .nil
  | node :: rest => .cons (Node.Rearranged.refl node) (Forest.Rearranged.refl rest)

end

/-- Every order of siblings is a rearrangement. -/
theorem Forest.Rearranged.of_perm {nodes others : List Node} (h : nodes.Perm others) :
    Forest.Rearranged nodes others := by
  induction h with
  | nil => exact .nil
  | cons node _ ih => exact .cons (.refl node) ih
  | swap second first rest => exact .swap first second rest
  | trans _ _ ihfirst ihsecond => exact .trans ihfirst ihsecond

mutual

/-- The order of siblings makes no difference to blocking. -/
theorem Node.Rearranged.isSubtreeBlocked {node other : Node} :
    Node.Rearranged node other → node.isSubtreeBlocked = other.isSubtreeBlocked
  | .node kind id status hchildren => by
    rw [Node.isSubtreeBlocked_eq, Node.isSubtreeBlocked_eq, hchildren.isBlocked]

theorem Forest.Rearranged.isBlocked {nodes others : List Node} :
    Forest.Rearranged nodes others → Forest.isBlocked nodes = Forest.isBlocked others
  | .nil => rfl
  | .cons hnode hrest => by
    rw [Forest.isBlocked, Forest.isBlocked, hnode.isSubtreeBlocked, hrest.isBlocked]
  | .swap first second rest => by
    simp only [Forest.isBlocked]
    exact Bool.or_left_comm ..
  | .trans hfirst hsecond => hfirst.isBlocked.trans hsecond.isBlocked

end

mutual

/-- **Rearranged nodes list the same profiles**, in another order. -/
theorem Node.Rearranged.perm_profile {node other : Node} :
    Node.Rearranged node other →
      (node.preorder.map Node.profile).Perm (other.preorder.map Node.profile)
  | .node kind id status hchildren => by
    have hflag := (Node.Rearranged.node kind id status hchildren).isSubtreeBlocked
    rw [Node.preorder_eq, Node.preorder_eq, List.map_cons, List.map_cons, Node.profile,
      Node.profile, hflag]
    exact hchildren.perm_profile.cons _

theorem Forest.Rearranged.perm_profile {nodes others : List Node} :
    Forest.Rearranged nodes others →
      ((Forest.preorder nodes).map Node.profile).Perm ((Forest.preorder others).map Node.profile)
  | .nil => .refl _
  | .cons hnode hrest => by
    rw [Forest.preorder_cons, Forest.preorder_cons, List.map_append, List.map_append]
    exact hnode.perm_profile.append hrest.perm_profile
  | .swap first second rest => by
    simp only [Forest.preorder_cons, List.map_append]
    exact List.perm_append_comm_assoc ..
  | .trans hfirst hsecond => hfirst.perm_profile.trans hsecond.perm_profile

end

theorem Node.Rearranged.perm_profile_children {node other : Node} (h : Node.Rearranged node other) :
    ((Forest.preorder node.children).map Node.profile).Perm
      ((Forest.preorder other.children).map Node.profile) := by
  cases h with
  | node kind id status hchildren => exact hchildren.perm_profile

theorem Node.Rearranged.perm_ids {node other : Node} (h : Node.Rearranged node other) :
    (node.preorder.map Node.id).Perm (other.preorder.map Node.id) := by
  have hids := h.perm_profile.map Profile.id
  rwa [List.map_map, List.map_map] at hids

namespace Tree

variable {tree other : Tree} (h : Node.Rearranged tree.root other.root)

include h

/-- Every node has a twin in the rearranged tree. -/
theorem exists_twin {node : Node} (hnode : node ∈ tree.root.preorder) :
    ∃ twin ∈ other.root.preorder, twin.profile = node.profile :=
  List.mem_map.mp (h.perm_profile.subset (List.mem_map_of_mem hnode))

/-- Every identifier has the blocking that it had, whether a node bears it or not. -/
theorem isSubtreeBlocked_of_rearranged (id : EntityId) :
    other.blocking.isSubtreeBlocked id = tree.blocking.isSubtreeBlocked id := by
  by_cases hid : id ∈ tree.root.preorder.map Node.id
  · obtain ⟨node, hnode, rfl⟩ := List.mem_map.mp hid
    obtain ⟨twin, htwin, hsame⟩ := exists_twin h hnode
    have hsameId : twin.id = node.id := congrArg Profile.id hsame
    rw [tree.isSubtreeBlocked_blocking hnode, ← hsameId, other.isSubtreeBlocked_blocking htwin]
    exact congrArg Profile.blocked hsame
  · have hother : id ∉ other.root.preorder.map Node.id := fun hmem =>
      hid (h.perm_ids.mem_iff.mpr hmem)
    rw [blocking, blocking, Annotations.isSubtreeBlocked_compute_of_notMem hid,
      Annotations.isSubtreeBlocked_compute_of_notMem hother]

/-- Every identifier has the eligibility that it had. -/
theorem eligibility_of_rearranged {node moved : Node} (hnode : node ∈ tree.root.preorder)
    (hmoved : moved ∈ other.root.preorder) (hid : moved.id = node.id) :
    moved.eligibility other.blocking = node.eligibility tree.blocking := by
  obtain ⟨twin, htwin, hsame⟩ := exists_twin h hnode
  have hsameId : moved.id = twin.id := hid.trans (congrArg Profile.id hsame).symm
  obtain rfl : moved = twin :=
    List.inj_on_of_nodup_map other.nodup_preorder_ids hmoved htwin hsameId
  rw [tree.eligibility_eq_profile hnode, other.eligibility_eq_profile hmoved, hsame]

theorem perm_eligibleDescendants :
    ((tree.root.eligibleDescendants tree.blocking).map Node.profile).Perm
      ((other.root.eligibleDescendants other.blocking).map Node.profile) := by
  rw [tree.map_profile_eligibleDescendants, other.map_profile_eligibleDescendants]
  exact h.perm_profile_children.filter _

end Tree

namespace Cascade

variable {σ : Type}

/-! ## 2.  Cascades that no missing booking ends -/

/-- What is foreseen where no encounter ends the cascade. -/
theorem foreseen_eq_map {policy : MissingBookingPolicy} {expected : Node → Encounter}
    {nodes : List Node} (hquiet : ∀ node ∈ nodes, (expected node).stops policy = false) :
    foreseen policy expected nodes = nodes.map fun node => (node, expected node) := by
  induction nodes with
  | nil => rfl
  | cons node rest ih =>
    obtain ⟨hnode, hrest⟩ := List.forall_mem_cons.mp hquiet
    rw [foreseen, hnode, ih hrest]
    rfl

theorem verdict_foreseen_of_quiet {policy : MissingBookingPolicy} {expected : Node → Encounter}
    {nodes : List Node} (hquiet : ∀ node ∈ nodes, (expected node).stops policy = false) :
    verdict policy (foreseen policy expected nodes) = .ok () := by
  rw [verdict, foreseen_eq_map hquiet, find?_stops_eq_none]
  intro attempt hattempt
  obtain ⟨node, hnode, rfl⟩ := List.mem_map.mp hattempt
  exact hquiet node hnode

/-- A script leads to nothing being found where it finds no booking. -/
theorem encounterOf_eq_absent_iff {script : StandIn.Script} {time : Instant} {node : Node} :
    encounterOf script time node = .absent ↔
      node.kind = .booking ∧ script.finds node.id = .ok none := by
  rw [encounterOf]
  cases node.kind with
  | booking =>
    rcases script.finds node.id with fault | booking?
    · simp [lookedUp]
    · cases booking? <;> simp [lookedUp]
  | _ => simp

/-- What a script leads to is a matter of the profile of a node. -/
theorem encounterOf_congr (script : StandIn.Script) (time : Instant) {node twin : Node}
    (h : node.profile = twin.profile) :
    encounterOf script time node = encounterOf script time twin := by
  have hkind : node.kind = twin.kind := congrArg Profile.kind h
  have hid : node.id = twin.id := congrArg Profile.id h
  rw [encounterOf, encounterOf, hkind, hid]

/-- So are the calls of an attempt, once its encounter is known. -/
theorem attemptCalls_congr (policy : MissingBookingPolicy) (context : Context)
    (encounter : Encounter) {node twin : Node} (h : node.profile = twin.profile) :
    attemptCalls policy context (node, encounter) =
      attemptCalls policy context (twin, encounter) := by
  have hkind : node.kind = twin.kind := congrArg Profile.kind h
  have hid : node.id = twin.id := congrArg Profile.id h
  simp only [attemptCalls, Encounter.failures, hkind, hid]

/-- **What is done about a node does not depend on what was done before**, so long as nothing ends
the cascade. -/
theorem run_of_quiet {world : World σ} {state reached : σ} {time : Instant}
    (hsteady : world.Steady state) (hclock : world.Tells state time)
    (hreached : world.Reaches state reached) (reporting : Reporting) (tree : Tree)
    (context : Context) (config : Config)
    (hquiet : ∀ node ∈ tree.root.eligibleDescendants tree.blocking,
      (encounterOf (world.script context state) time node).stops config.onMissingBooking = false) :
    let run := (withdrawDescendants reporting tree context config).run world reached
    run.result = .ok () ∧
      run.transcript.calls = (tree.root.eligibleDescendants tree.blocking).flatMap fun node =>
        Transcript.calls (attemptCalls config.onMissingBooking context
          (node, encounterOf (world.script context state) time node)) := by
  intro run
  constructor
  · exact (result_of_steady hsteady hreached reporting tree context config time).trans
      (verdict_foreseen_of_quiet hquiet)
  · show run.transcript.calls = _
    rw [calls_of_still_clock hsteady hclock hreached reporting tree context config,
      foreseen_eq_map hquiet, List.flatMap_map]

/-- What is collected from two lists is the same but for the order, if the lists are so in all that
matters for the collection. -/
theorem perm_flatMap_of_perm_map {α β γ : Type} {view : α → β} {collect : α → List γ}
    (hview : ∀ first second, view first = view second → collect first = collect second)
    {front back : List α} (h : (front.map view).Perm (back.map view)) :
    (front.flatMap collect).Perm (back.flatMap collect) := by
  have hfactors : Function.FactorsThrough collect view := fun first second => hview first second
  have hcollect : ∀ part : List α, part.flatMap collect =
      (part.map view).flatMap (Function.extend view collect fun _ => []) := by
    intro part
    rw [List.flatMap_map]
    exact List.flatMap_congr fun item _ => (hfactors.extend_apply _ item).symm
  rw [hcollect, hcollect]
  exact h.flatMap fun _ _ => .refl _

/-! ## 3.  Siblings -/

/-- **Runs over rearranged trees** both succeed, with the same calls in whatever order. -/
theorem runs_of_rearranged {tree other : Tree} (h : Node.Rearranged tree.root other.root)
    {world : World σ} {state later : σ} {time : Instant} (hsteady : world.Steady state)
    (hclock : world.Tells state time) (hlater : world.Reaches state later) (reporting : Reporting)
    (context : Context) (config : Config)
    (hquiet : ∀ node ∈ tree.root.eligibleDescendants tree.blocking,
      (encounterOf (world.script context state) time node).stops config.onMissingBooking = false) :
    let run := (withdrawDescendants reporting tree context config).run world state
    let rerun := (withdrawDescendants reporting other context config).run world later
    run.result = .ok () ∧ rerun.result = .ok () ∧
      run.transcript.calls.Perm rerun.transcript.calls := by
  intro run rerun
  have hperm := Tree.perm_eligibleDescendants h
  have hquietOther : ∀ node ∈ other.root.eligibleDescendants other.blocking,
      (encounterOf (world.script context state) time node).stops config.onMissingBooking =
        false := by
    intro node hnode
    obtain ⟨twin, htwin, hsame⟩ :=
      List.mem_map.mp (hperm.mem_iff.mpr (List.mem_map_of_mem hnode))
    rw [← encounterOf_congr _ time hsame]
    exact hquiet twin htwin
  obtain ⟨hresult, hcalls⟩ :=
    run_of_quiet hsteady hclock .start reporting tree context config hquiet
  obtain ⟨hresultOther, hcallsOther⟩ :=
    run_of_quiet hsteady hclock hlater reporting other context config hquietOther
  refine ⟨hresult, hresultOther, ?_⟩
  rw [hcalls, hcallsOther]
  refine perm_flatMap_of_perm_map (fun node twin hsame => ?_) hperm
  rw [encounterOf_congr _ time hsame, attemptCalls_congr _ _ _ hsame]

/-- Let the children of any number of nodes in a tree be put into another order.  The result is
accepted as a tree with the same identifiers, and every identifier has the blocking and the
eligibility that it had.  Among collaborators that answer a call by its arguments, with a clock that
stands still, and unless an eligible booking is looked up in vain under the policy to stop, the
cascades over both trees succeed, and they make the same calls with the same arguments and report
the same failures, in whatever order.  It does not matter if one of them comes after other calls. -/
theorem siblings_in_any_order (tree : Tree) {root : Node} (h : Node.Rearranged tree.root root) :
    ∃ other, Tree.ofRoot root = .ok other ∧ other.root = root ∧
      (other.root.all.map Node.id).Perm (tree.root.all.map Node.id) ∧
      (∀ id, other.blocking.isSubtreeBlocked id = tree.blocking.isSubtreeBlocked id) ∧
      (∀ node ∈ tree.root.all, ∀ moved ∈ other.root.all, moved.id = node.id →
        moved.eligibility other.blocking = node.eligibility tree.blocking) ∧
      ∀ (reporting : Reporting) (context : Context) (config : Config) {σ : Type} (world : World σ)
        (state later : σ) (time : Instant),
        world.Steady state → world.Tells state time → world.Reaches state later →
        (config.onMissingBooking = .skip ∨
          ∀ node ∈ tree.root.eligibleDescendants tree.blocking, node.kind = .booking →
            (world.answer (.findBooking node.id) state).1 ≠ .ok none) →
        let run := (withdrawDescendants reporting tree context config).run world state
        let rerun := (withdrawDescendants reporting other context config).run world later
        run.result = .ok () ∧ rerun.result = .ok () ∧
          run.transcript.calls.Perm rerun.transcript.calls ∧
          run.transcript.reports.Perm rerun.transcript.reports := by
  have hids : (root.preorder.map Node.id).Nodup := h.perm_ids.nodup tree.nodup_preorder_ids
  obtain ⟨other, hother, rfl⟩ := Tree.exists_ofRoot_eq_ok hids
  refine ⟨other, hother, rfl, ?_, Tree.isSubtreeBlocked_of_rearranged h, ?_, ?_⟩
  · rw [Node.all_eq_preorder, Node.all_eq_preorder]
    exact h.perm_ids.symm
  · rw [Node.all_eq_preorder, Node.all_eq_preorder]
    exact fun node hnode moved hmoved => Tree.eligibility_of_rearranged h hnode hmoved
  · intro reporting context config σ world state later time hsteady hclock hlater hfound run rerun
    have hquiet : ∀ node ∈ tree.root.eligibleDescendants tree.blocking,
        (encounterOf (world.script context state) time node).stops config.onMissingBooking =
          false := by
      intro node hnode
      rw [← Bool.not_eq_true, Encounter.stops_eq_true_iff, encounterOf_eq_absent_iff]
      rintro ⟨⟨hkind, hreply⟩, hpolicy⟩
      rcases hfound with hskip | hfound
      · exact absurd (hskip.symm.trans hpolicy) (by decide)
      · exact hfound node hnode hkind hreply
    obtain ⟨hresult, hresultOther, hcalls⟩ :=
      runs_of_rearranged h hsteady hclock hlater reporting context config hquiet
    refine ⟨hresult, hresultOther, hcalls, ?_⟩
    rw [Transcript.reports_eq_calls, Transcript.reports_eq_calls]
    exact hcalls.filterMap _

/-- The root of the tree that is rehearsed elsewhere (`rehearsalTree`), with its children the other
way round. -/
def reversedRoot : Node :=
  Sample.node (EntityId.ofNat 1) .application true rehearsalTree.root.children.reverse

/-- A rehearsal with the children the other way round, after the first one and among the same
stand-ins, makes the same calls. -/
theorem rehearsal_in_reverse :
    let bookings := StandIn.Bookings.withBooking {} (EntityId.ofNat 3) (EntityId.ofNat 0)
    let ensemble : StandIn.Ensemble := { bookings }
    let cascade := fun tree =>
      withdrawDescendants .logged tree (Sample.systemContext rehearsalTree.root) {}
    let run := (cascade rehearsalTree).run StandIn.Ensemble.world ensemble
    Node.Rearranged rehearsalTree.root reversedRoot ∧
      ∃ other, Tree.ofRoot reversedRoot = .ok other ∧
        let rerun := (cascade other).run StandIn.Ensemble.world run.state
        run.result = .ok () ∧ rerun.result = .ok () ∧
          run.transcript.calls.Perm rerun.transcript.calls := by
  intro bookings ensemble cascade run
  have hreversed : Node.Rearranged rehearsalTree.root reversedRoot :=
    .node _ _ _ (.of_perm (List.reverse_perm _).symm)
  obtain ⟨other, hother, -, -, -, -, hruns⟩ := siblings_in_any_order rehearsalTree hreversed
  have hknown : ∀ node ∈ rehearsalTree.root.eligibleDescendants rehearsalTree.blocking,
      node.kind = .booking → node.id = EntityId.ofNat 3 := by
    rw [rehearsalTree.eligibleDescendants_eq_filter]
    decide
  have hfound : ∀ node ∈ rehearsalTree.root.eligibleDescendants rehearsalTree.blocking,
      node.kind = .booking →
        (StandIn.Ensemble.world.answer (.findBooking node.id) ensemble).1 ≠ .ok none := by
    intro node hnode hkind
    rw [hknown node hnode hkind]
    rintro ⟨⟩
  obtain ⟨hresult, hresultOther, hcalls, -⟩ := hruns .logged
    (Sample.systemContext rehearsalTree.root) {} StandIn.Ensemble.world ensemble run.state
    ensemble.clock ensemble.steady ensemble.tells (World.Reaches.start.run _) (.inr hfound)
  exact ⟨hreversed, other, hother, hresult, hresultOther, hcalls⟩

end Cascade
end WithdrawalCascade
