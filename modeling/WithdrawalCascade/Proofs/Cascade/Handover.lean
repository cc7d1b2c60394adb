import WithdrawalCascade.Proofs.Blocking
import WithdrawalCascade.Proofs.Cascade.Course
import WithdrawalCascade.Sample
import WithdrawalCascade.StandIn.Script

/-!
# Which descendants are handed over

A descendant is handed over by the call that names it: the withdrawal of a request for placement of
either kind, or the look-up of a booking.  `Transcript.handovers` reads these calls off a transcript
in order, each as the kind of entity whose collaborator was called and the identifier it was called
with.

`Course.handovers_eq` holds of every run: handed over are the attempted descendants that are no
applications, each to the collaborator for its kind.  In a run that succeeds these are all
descendants that can be withdrawn and have nothing in their subtree that blocks.
-/

namespace WithdrawalCascade

/-- The kind of entity whose collaborator a call hands a descendant to, and which one it hands
over. -/
def Call.handover? : Call → Option (EntityKind × EntityId)
  | .withdrawPlacementRequest withdrawal => some (.placementRequest, withdrawal.id)
  | .withdrawPlacementApplication withdrawal => some (.placementApplication, withdrawal.id)
  | .findBooking id => some (.booking, id)
  | .now => none
  | .cancelBooking .. => none
  | .report _ => none

/-- What a transcript says was handed over, in order. -/
def Transcript.handovers (transcript : Transcript) : List (EntityKind × EntityId) :=
  transcript.filterMap fun entry => entry.call?.bind Call.handover?

namespace Cascade

variable {σ : Type}

/-- An attempt hands its descendant over once, unless the descendant is an application. -/
theorem handovers_attemptCalls (policy : MissingBookingPolicy) (context : Context) (node : Node)
    (encounter : Encounter) :
    Transcript.handovers (attemptCalls policy context (node, encounter)) =
      if encounter.kind = .application then [] else [(encounter.kind, node.id)] := by
  have hreports : ∀ failures : List Failure, Transcript.handovers
      (failures.map fun failure => .exchange (.report failure) ()) = [] := by
    intro failures
    rw [Transcript.handovers, List.filterMap_map, List.filterMap_eq_nil_iff]
    intro failure _
    rfl
  rw [attemptCalls, Transcript.handovers, List.filterMap_append]
  have hnone := hreports (encounter.failures policy context node)
  rw [Transcript.handovers] at hnone
  rw [hnone, List.append_nil]
  cases encounter <;> rfl

/-- **Who is handed to whom.**  In every run the attempted descendants are handed over in order,
applications left out, each to the collaborator for its kind. -/
theorem Course.handovers_eq {reporting : Reporting} {tree : Tree} {context : Context}
    {policy : MissingBookingPolicy} {steps : List Step} {result : Except Fault Unit}
    {transcript : Transcript}
    (h : Course reporting tree context policy steps result transcript) :
    transcript.handovers =
      (((attempts steps).map Prod.fst).filter fun node => node.kind ≠ .application).map
        fun node => (node.kind, node.id) := by
  have hkind : ∀ attempted ∈ attempts steps, attempted.2.kind = attempted.1.kind :=
    fun attempted hmem => h.kind_eq hmem
  rw [Transcript.handovers, ← filterMap_exchanges fun _ => rfl, h.exchanges_eq,
    List.filterMap_flatMap]
  generalize attempts steps = attempted at hkind
  induction attempted with
  | nil => rfl
  | cons first rest ih =>
    obtain ⟨node, encounter⟩ := first
    obtain ⟨hfirst, hrest⟩ := List.forall_mem_cons.mp hkind
    have hcalls := handovers_attemptCalls policy context node encounter
    rw [Transcript.handovers, hfirst] at hcalls
    rw [List.flatMap_cons, hcalls, ih hrest]
    by_cases happlication : node.kind = .application
    · simp [happlication]
    · simp [happlication]

/-- In a cascade that succeeds, what is handed over are the descendants that can be withdrawn and
have nothing in their subtree that blocks, in pre-order and each once; the root is not among
them. -/
theorem handovers_of_success (reporting : Reporting) (tree : Tree) (context : Context)
    (config : Config) (world : World σ) (state : σ)
    (h : ((withdrawDescendants reporting tree context config).run world state).result = .ok ()) :
    let handovers :=
      ((withdrawDescendants reporting tree context config).run world state).transcript.handovers
    handovers =
        ((Forest.preorder tree.root.children).filter fun node =>
          node.kind ≠ .application ∧ node.status.withdrawable = true ∧
            ∀ below ∈ node.preorder, below.status.blocksAncestors = false).map
          (fun node => (node.kind, node.id)) ∧
      (handovers.map Prod.snd).Nodup ∧ tree.root.id ∉ handovers.map Prod.snd := by
  have hcourse := course_run reporting tree context config world state
  intro handovers
  have hhandovers : handovers =
      ((Forest.preorder tree.root.children).filter fun node =>
        node.kind ≠ .application ∧ node.status.withdrawable = true ∧
          ∀ below ∈ node.preorder, below.status.blocksAncestors = false).map
        (fun node => (node.kind, node.id)) := by
    show Transcript.handovers _ = _
    rw [hcourse.handovers_eq, hcourse.map_fst_attempts_of_ok h, tree.eligibleDescendants_eq_filter,
      List.filter_filter]
    simp only [Bool.decide_and]
  -- the identifiers handed over are some of those below the root
  have hids : (handovers.map Prod.snd).Sublist
      ((Forest.preorder tree.root.children).map Node.id) := by
    rw [hhandovers, List.map_map]
    exact List.filter_sublist.map Node.id
  exact ⟨hhandovers, hids.nodup tree.nodup_descendant_ids,
    fun hroot => tree.root_id_notMem (hids.subset hroot)⟩

/-- An application with a request over a booking, a further request over a booking for which an
arrival is recorded, and a booking that cannot be withdrawn. -/
def rehearsalTree : Tree where
  root := Sample.node (EntityId.ofNat 1) .application true
    [Sample.node (EntityId.ofNat 2) .placementRequest true
        [Sample.node (EntityId.ofNat 3) .booking true []],
      Sample.node (EntityId.ofNat 4) .placementApplication true
        [Sample.blockingNode (EntityId.ofNat 5) .booking []],
      Sample.node (EntityId.ofNat 6) .booking false []]
  ids_nodup := by
    rw [Node.all_eq_preorder]
    decide

/-- In a rehearsal in which every call succeeds, the first request and its booking are handed
over. -/
theorem handovers_of_rehearsal :
    let run := (withdrawDescendants .plain rehearsalTree (Sample.systemContext rehearsalTree.root)
      {}).run (StandIn.ScriptTables.script {}).world ⟨0⟩
    run.result = .ok () ∧ run.transcript.handovers =
      [(.placementRequest, EntityId.ofNat 2), (.booking, EntityId.ofNat 3)] := by
  have hsuccess : ((withdrawDescendants .plain rehearsalTree
      (Sample.systemContext rehearsalTree.root) {}).run
        (StandIn.ScriptTables.script {}).world ⟨0⟩).result = .ok () := by
    simp only [withdrawDescendants, Node.assessDescendants, Node.descendants_eq_preorder]
    rfl
  have hhandovers := (handovers_of_success .plain rehearsalTree
    (Sample.systemContext rehearsalTree.root) {} (StandIn.ScriptTables.script {}).world ⟨0⟩
    hsuccess).1
  exact ⟨hsuccess, hhandovers.trans (by decide)⟩

end Cascade
end WithdrawalCascade
