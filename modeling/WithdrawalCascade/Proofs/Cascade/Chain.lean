import WithdrawalCascade.Proofs.Cascade.Attribution
import WithdrawalCascade.Proofs.Cascade.Report
import WithdrawalCascade.Proofs.Descent

/-!
# No subtree is withdrawn by halves

Three things keep a subtree whole: a blocking entity protects everything above it, what can be
withdrawn below an eligible node is eligible itself, and the cascade takes a node before what is
under it.  So a cascade that was begun on a subtree and not cut short has taken all of it that can
be withdrawn, and one that was cut short has gone down from the top: of what it took it took the
eligible ancestors first.

Which descendants were taken is read off the log (`Transcript.attempted`); for whom collaborators
were called is read off the calls (`Transcript.about`).
-/

namespace WithdrawalCascade
namespace Cascade

variable {σ : Type}

namespace Course

variable {reporting : Reporting} {tree : Tree} {context : Context}
  {policy : MissingBookingPolicy} {steps : List Step} {result : Except Fault Unit}
  {transcript : Transcript}

/-- The identifiers in the log are those of the attempted descendants. -/
theorem attempted_ids_eq (h : Course reporting tree context policy steps result transcript) :
    transcript.attempted.map Prod.snd = ((attempts steps).map Prod.fst).map Node.id := by
  rw [h.attempted_eq, List.map_map, List.map_map]
  rfl

/-- The log names attempted descendants in the order of the eligible ones, from the first on. -/
theorem attempted_ids_isPrefix (h : Course reporting tree context policy steps result transcript) :
    transcript.attempted.map Prod.snd <+:
      (tree.root.eligibleDescendants tree.blocking).map Node.id := by
  rw [h.attempted_ids_eq]
  exact h.map_fst_attempts_isPrefix.map Node.id

/-- A node of the tree whose identifier is in the log is an eligible descendant. -/
theorem mem_eligibleDescendants (h : Course reporting tree context policy steps result transcript)
    {node : Node} (hnode : node ∈ tree.root.preorder)
    (hattempted : node.id ∈ transcript.attempted.map Prod.snd) :
    node ∈ tree.root.eligibleDescendants tree.blocking := by
  obtain ⟨other, hother, hid⟩ :=
    List.mem_map.mp (h.attempted_ids_isPrefix.subset hattempted)
  have hmem : other ∈ tree.root.preorder :=
    Node.mem_preorder_of_mem_children (tree.mem_eligibleDescendants_iff.mp hother).1
  -- in a withdrawable tree the identifier belongs to one node
  obtain rfl : other = node := List.inj_on_of_nodup_map tree.nodup_preorder_ids hmem hnode hid
  exact hother

/-- Nothing is called about a descendant that was not attempted. -/
theorem about_eq_nil (h : Course reporting tree context policy steps result transcript)
    {id : EntityId} (hid : id ∉ transcript.attempted.map Prod.snd) : transcript.about id = [] := by
  have hnone : (attempts steps).filter (fun attempt => attempt.1.id = id) = [] := by
    rw [List.filter_eq_nil_iff]
    intro attempt hattempt hsame
    refine hid ?_
    rw [h.attempted_ids_eq, ← of_decide_eq_true hsame]
    exact List.mem_map_of_mem (List.mem_map_of_mem hattempt)
  rw [h.about_eq, hnone, List.flatMap_nil]

/-- **Top down.**  Of two eligible descendants, one under the other, the upper one is attempted
first. -/
theorem pair_sublist_attempted (h : Course reporting tree context policy steps result transcript)
    {node below : Node} (hnode : node ∈ tree.root.eligibleDescendants tree.blocking)
    (hbelow : below ∈ tree.root.eligibleDescendants tree.blocking)
    (hunder : below ∈ Forest.preorder node.children)
    (hattempted : below.id ∈ transcript.attempted.map Prod.snd) :
    [node.id, below.id].Sublist (transcript.attempted.map Prod.snd) := by
  have hpair := (tree.pair_sublist_eligibleDescendants hnode hbelow hunder).map Node.id
  exact pair_sublist_of_isPrefix h.attempted_ids_isPrefix tree.nodup_eligible_ids hpair hattempted

end Course

/-- In every run no descendant over a blocking entity is attempted, and nothing is called about it.
Below an attempted descendant all that can be withdrawn is eligible, and in a run that succeeds it
is attempted too, later.  In every run the eligible ancestors of an attempted descendant have been
attempted before it. -/
theorem no_half_withdrawn_subtree (reporting : Reporting) (tree : Tree) (context : Context)
    (config : Config) (world : World σ) (state : σ) :
    let run := (withdrawDescendants reporting tree context config).run world state
    let eligible := tree.root.eligibleDescendants tree.blocking
    let attempted := run.transcript.attempted.map Prod.snd
    attempted.Nodup ∧
      (∀ node ∈ tree.root.preorder,
        (∃ below ∈ node.preorder, below.status.blocksAncestors = true) →
          node.id ∉ attempted ∧ run.transcript.about node.id = []) ∧
      (∀ node ∈ tree.root.preorder, node.id ∈ attempted →
        ∀ below ∈ Forest.preorder node.children, below.status.withdrawable = true →
          below ∈ eligible ∧
            (run.result = .ok () → [node.id, below.id].Sublist attempted)) ∧
      ∀ node ∈ eligible, ∀ below ∈ Forest.preorder node.children, below.id ∈ attempted →
        [node.id, below.id].Sublist attempted := by
  intro run eligible attempted
  have hcourse := course_run reporting tree context config world state
  refine ⟨hcourse.attempted_ids_isPrefix.sublist.nodup tree.nodup_eligible_ids, ?_, ?_, ?_⟩
  · intro node hnode hblocks
    have hnot : node.id ∉ attempted := by
      intro hattempted
      have heligible := hcourse.mem_eligibleDescendants hnode hattempted
      have hfree := (tree.mem_eligibleDescendants_iff.mp heligible).2.2
      rw [node.isSubtreeBlocked_eq_true_iff.mpr hblocks] at hfree
      exact absurd hfree (by decide)
    exact ⟨hnot, hcourse.about_eq_nil hnot⟩
  · intro node hnode hattempted below hunder hwithdrawable
    have heligible := hcourse.mem_eligibleDescendants hnode hattempted
    have hbelow := tree.mem_eligibleDescendants_of_above heligible hunder hwithdrawable
    refine ⟨hbelow, fun hsuccess => hcourse.pair_sublist_attempted heligible hbelow hunder ?_⟩
    show below.id ∈ attempted
    rw [show attempted = _ from hcourse.attempted_ids_eq, hcourse.map_fst_attempts_of_ok hsuccess]
    exact List.mem_map_of_mem hbelow
  · intro node hnode below hunder hattempted
    have hmem : below ∈ tree.root.preorder :=
      Node.mem_preorder_of_mem_children
        (Forest.mem_preorder_of_above (tree.mem_eligibleDescendants_iff.mp hnode).1 hunder)
    exact hcourse.pair_sublist_attempted hnode (hcourse.mem_eligibleDescendants hmem hattempted)
      hunder hattempted

end Cascade
end WithdrawalCascade
