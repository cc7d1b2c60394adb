import WithdrawalCascade.Proofs.Cascade.Attribution
import WithdrawalCascade.Proofs.Cascade.Handover
import WithdrawalCascade.Proofs.Cascade.Report

/-!
# Bookings that do not exist

A cascade can fail in one way: a booking in the tree is looked up, nobody knows it, and the policy
is to stop.  A fault of a collaborator is no such way, not even one that says that a booking was not
found: what a collaborator answers is reported, and the cascade goes on.

* `absent_mem_iff`: a look-up that finds nothing is the encounter `absent` of an attempt.
* `visits` and `exists_lookup`: a run visits whom it attempts, and looks up the bookings among them.
* `faultsReported_attempts`: right after an answer that is a fault comes its report.
* `exists_error_iff`, `of_ok` and `of_error`: when a run fails, and whom it has visited if it
  succeeds and if it fails.
-/

namespace WithdrawalCascade

/-- The fault that a collaborator answered with, if it did. -/
def Entry.fault? : Entry → Option Fault
  | .exchange (.withdrawPlacementRequest _) (.error fault) => some fault
  | .exchange (.withdrawPlacementApplication _) (.error fault) => some fault
  | .exchange (.findBooking _) (.error fault) => some fault
  | .exchange (.cancelBooking ..) (.error fault) => some fault
  | _ => none

/-- A transcript visits the given descendants in the given order, and no others: the log says of
each of them that its withdrawal begins, and each that is no application is handed to the
collaborator for its kind. -/
def Transcript.Visits (transcript : Transcript) (nodes : List Node) : Prop :=
  transcript.attempted = nodes.map (fun node => (node.kind, node.id)) ∧
    transcript.handovers =
      (nodes.filter fun node => node.kind ≠ .application).map fun node => (node.kind, node.id)

namespace Cascade

variable {σ : Type}

/-! ## 1.  Look-ups that find nothing -/

theorem exchange_mem_exchanges_iff {transcript : Transcript} {call : Call} {reply : call.Reply} :
    .exchange call reply ∈ transcript.exchanges ↔ .exchange call reply ∈ transcript := by
  rw [Transcript.exchanges, List.mem_filter]
  exact and_iff_left rfl

theorem absent_mem_attemptCalls_iff {policy : MissingBookingPolicy} {context : Context}
    {node : Node} {encounter : Encounter} {id : EntityId} :
    .exchange (.findBooking id) (.ok none) ∈ attemptCalls policy context (node, encounter) ↔
      encounter = .absent ∧ node.id = id := by
  rw [attemptCalls, List.mem_append]
  constructor
  · rintro (hmem | hmem)
    · cases encounter with
      | absent =>
        rw [Encounter.exchanges, List.mem_singleton] at hmem
        cases hmem
        exact ⟨rfl, rfl⟩
      | found booking now answer =>
        simp only [Encounter.exchanges, List.mem_cons, List.not_mem_nil, or_false] at hmem
        rcases hmem with hmem | hmem | hmem <;> cases hmem
      | idle => cases hmem
      | request answer => cases List.mem_singleton.mp hmem
      | furtherRequest answer => cases List.mem_singleton.mp hmem
      | unsearched fault => cases List.mem_singleton.mp hmem
    · obtain ⟨failure, -, hfailure⟩ := List.mem_map.mp hmem
      cases hfailure
  · rintro ⟨rfl, rfl⟩
    exact Or.inl (List.mem_singleton.mpr rfl)

/-- Steps that do not end the cascade find every booking. -/
theorem absent_notMem_of_quiet {steps : List Step}
    (hquiet : ∀ step ∈ steps, step.stops .abort = false) (node : Node) :
    .attempted node .absent ∉ steps := by
  intro hmem
  have hstops : true = false := hquiet _ hmem
  exact absurd hstops (by decide)

namespace Course

variable {reporting : Reporting} {tree : Tree} {context : Context}
  {policy : MissingBookingPolicy} {steps : List Step} {result : Except Fault Unit}
  {transcript : Transcript}

/-- A look-up that finds nothing is the encounter of an attempt on that booking. -/
theorem absent_mem_iff (h : Course reporting tree context policy steps result transcript)
    {id : EntityId} :
    .exchange (.findBooking id) (.ok none) ∈ transcript ↔
      ∃ node, (node, Encounter.absent) ∈ attempts steps ∧ node.id = id := by
  rw [← exchange_mem_exchanges_iff, h.exchanges_eq, List.mem_flatMap]
  constructor
  · rintro ⟨⟨node, encounter⟩, hmem, hcalls⟩
    obtain ⟨rfl, hid⟩ := absent_mem_attemptCalls_iff.mp hcalls
    exact ⟨node, hmem, hid⟩
  · rintro ⟨node, hmem, hid⟩
    exact ⟨(node, .absent), hmem, absent_mem_attemptCalls_iff.mpr ⟨rfl, hid⟩⟩

end Course

/-! ## 2.  Who is visited -/

/-- An encounter with a booking has a look-up of it. -/
theorem Encounter.exists_lookup {encounter : Encounter} (hkind : encounter.kind = .booking)
    (context : Context) (id : EntityId) :
    ∃ reply, .exchange (.findBooking id) reply ∈ encounter.exchanges context id := by
  cases encounter with
  | unsearched fault => exact ⟨_, List.mem_cons_self⟩
  | absent => exact ⟨_, List.mem_cons_self⟩
  | found booking now answer => exact ⟨_, List.mem_cons_self⟩
  | idle => cases hkind
  | request answer => cases hkind
  | furtherRequest answer => cases hkind

namespace Course

variable {reporting : Reporting} {tree : Tree} {context : Context}
  {policy : MissingBookingPolicy} {steps : List Step} {result : Except Fault Unit}
  {transcript : Transcript}

/-- **A run visits those that it attempts.** -/
theorem visits (h : Course reporting tree context policy steps result transcript) :
    transcript.Visits ((attempts steps).map Prod.fst) := by
  refine ⟨?_, h.handovers_eq⟩
  rw [h.attempted_eq, List.map_map]
  rfl

/-- **Attempted bookings are looked up.** -/
theorem exists_lookup (h : Course reporting tree context policy steps result transcript)
    {node : Node} (hnode : node ∈ (attempts steps).map Prod.fst) (hbooking : node.kind = .booking) :
    ∃ reply, .exchange (.findBooking node.id) reply ∈ transcript := by
  obtain ⟨⟨attempted, encounter⟩, hattempt, rfl⟩ := List.mem_map.mp hnode
  obtain ⟨reply, hlookup⟩ :=
    Encounter.exists_lookup ((h.kind_eq hattempt).trans hbooking) context attempted.id
  refine ⟨reply, ?_⟩
  rw [← exchange_mem_exchanges_iff, h.exchanges_eq, List.mem_flatMap]
  exact ⟨(attempted, encounter), hattempt, List.mem_append_left _ hlookup⟩

end Course

/-! ## 3.  Answers that are faults -/

/-- Wherever an answer is a fault, what comes next is its report, over one of `nodes`. -/
def FaultsReported (context : Context) (nodes : List Node) : Transcript → Prop
  | [] => True
  | entry :: rest =>
    (∀ fault, entry.fault? = some fault → ∃ node ∈ nodes,
      rest.head? = some (.exchange (.report ⟨node.kind, node.id, context.triggeringKind,
        context.triggeringId, .infrastructure fault.message⟩) ())) ∧
    FaultsReported context nodes rest

theorem FaultsReported.append {context : Context} {nodes : List Node} {front back : Transcript}
    (hfront : FaultsReported context nodes front) (hback : FaultsReported context nodes back) :
    FaultsReported context nodes (front ++ back) := by
  induction front with
  | nil => exact hback
  | cons entry rest ih =>
    refine ⟨?_, ih hfront.2⟩
    intro fault hfault
    obtain ⟨node, hnode, hreport⟩ := hfront.1 fault hfault
    -- the report is there already, so nothing that is appended comes before it
    exact ⟨node, hnode, List.head?_append.trans (by rw [hreport]; rfl)⟩

theorem FaultsReported.head?_eq {context : Context} {nodes : List Node} {before after : Transcript}
    {entry : Entry} (h : FaultsReported context nodes (before ++ entry :: after)) {fault : Fault}
    (hfault : entry.fault? = some fault) :
    ∃ node ∈ nodes, after.head? = some (.exchange (.report ⟨node.kind, node.id,
      context.triggeringKind, context.triggeringId, .infrastructure fault.message⟩) ()) := by
  induction before with
  | nil => exact h.1 fault hfault
  | cons first rest ih => exact ih h.2

/-- A report is not a fault. -/
theorem faultsReported_reports (context : Context) (nodes : List Node) (failures : List Failure) :
    FaultsReported context nodes (failures.map fun failure => .exchange (.report failure) ()) := by
  induction failures with
  | nil => trivial
  | cons failure rest ih => exact ⟨by rintro _ ⟨⟩, ih⟩

/-- In an attempt only the last answer can be a fault, and its report comes next. -/
theorem faultsReported_attemptCalls (policy : MissingBookingPolicy) (context : Context)
    {nodes : List Node} {node : Node} (hnode : node ∈ nodes) (encounter : Encounter) :
    FaultsReported context nodes (attemptCalls policy context (node, encounter)) := by
  have hanswered : ∀ entry : Entry, entry.fault? = none → ∀ failures : List Failure,
      FaultsReported context nodes
        (entry :: failures.map fun failure => .exchange (.report failure) ()) := by
    intro entry hnone failures
    refine ⟨?_, faultsReported_reports context nodes failures⟩
    intro fault hfault
    rw [hnone] at hfault
    cases hfault
  have hreported : ∀ (entry : Entry) (fault : Fault), entry.fault? = some fault →
      FaultsReported context nodes [entry, .exchange (.report ⟨node.kind, node.id,
        context.triggeringKind, context.triggeringId, .infrastructure fault.message⟩) ()] := by
    intro entry fault hfault
    refine ⟨?_, faultsReported_reports context nodes [_]⟩
    intro other hother
    obtain rfl : fault = other := Option.some.inj (hfault.symm.trans hother)
    exact ⟨node, hnode, rfl⟩
  cases encounter with
  | idle => trivial
  | request answer =>
    cases answer with
    | error fault => exact hreported _ fault rfl
    | ok outcome => exact hanswered _ rfl _
  | furtherRequest answer =>
    cases answer with
    | error fault => exact hreported _ fault rfl
    | ok outcome => exact hanswered _ rfl _
  | unsearched fault => exact hreported _ fault rfl
  | absent => exact hanswered _ rfl _
  | found booking now answer =>
    -- neither the look-up nor the clock answered with a fault
    refine ⟨by rintro _ ⟨⟩, by rintro _ ⟨⟩, ?_⟩
    cases answer with
    | error fault => exact hreported _ fault rfl
    | ok outcome => exact hanswered _ rfl _

/-- **Faults are reported at once.** -/
theorem faultsReported_attempts (policy : MissingBookingPolicy) (context : Context)
    {nodes : List Node} {attempted : List (Node × Encounter)}
    (hnodes : ∀ node ∈ attempted.map Prod.fst, node ∈ nodes) :
    FaultsReported context nodes (attempted.flatMap (attemptCalls policy context)) := by
  induction attempted with
  | nil => trivial
  | cons first rest ih =>
    obtain ⟨node, encounter⟩ := first
    obtain ⟨hnode, hrest⟩ := List.forall_mem_cons.mp hnodes
    rw [List.flatMap_cons]
    exact (faultsReported_attemptCalls policy context hnode encounter).append (ih hrest)

/-! ## 4.  Runs that fail -/

/-- Steps never tell the log that the cascade is complete. -/
theorem complete_notMem_transcript (reporting : Reporting) (policy : MissingBookingPolicy)
    (context : Context) (step : Step) (tally : Log.Tally) :
    .told ⟨.complete tally, none⟩ ∉ step.transcript reporting policy context := by
  intro hmem
  have hsingle : true = false := (told_mem_step hmem).1
  exact absurd hsingle (by decide)

namespace Course

variable {reporting : Reporting} {tree : Tree} {context : Context}
  {policy : MissingBookingPolicy} {steps : List Step} {result : Except Fault Unit}
  {transcript : Transcript}

/-- Under the policy to stop, a booking that does not exist ends the cascade when it is reached. -/
theorem exists_error_iff (h : Course reporting tree context policy steps result transcript) :
    (∃ fault, result = .error fault) ↔ policy = .abort ∧
      ∃ node ∈ tree.root.eligibleDescendants tree.blocking, node.kind = .booking ∧
        .exchange (.findBooking node.id) (.ok none) ∈ transcript := by
  constructor
  · rintro ⟨fault, rfl⟩
    cases h with
    | @stopped earlier node rest hassessed hfits hquiet hkind hpolicy =>
      refine ⟨hpolicy, node, ?_, hkind, by simp⟩
      rw [eligibleDescendants_eq_append hassessed hfits]
      simp
  · rintro ⟨rfl, node, -, -, hlookup⟩
    obtain ⟨other, hother, -⟩ := h.absent_mem_iff.mp hlookup
    cases h with
    | complete hassessed hfits hquiet htally =>
      exact absurd (mem_attempts_iff.mp hother) (absent_notMem_of_quiet hquiet other)
    | stopped => exact ⟨_, rfl⟩

/-- A run that succeeds visits all eligible descendants and looks up the bookings among them, and
under the policy to stop no look-up finds nothing. -/
theorem of_ok (h : Course reporting tree context policy steps result transcript)
    (hsuccess : result = .ok ()) :
    transcript.Visits (tree.root.eligibleDescendants tree.blocking) ∧
      ∀ node ∈ tree.root.eligibleDescendants tree.blocking, node.kind = .booking →
        ∃ reply, .exchange (.findBooking node.id) reply ∈ transcript ∧
          (policy = .abort → reply ≠ .ok none) := by
  have hall := h.map_fst_attempts_of_ok hsuccess
  constructor
  · rw [← hall]
    exact h.visits
  · intro node hnode hbooking
    obtain ⟨reply, hlookup⟩ := h.exists_lookup (hall.symm ▸ hnode) hbooking
    refine ⟨reply, hlookup, ?_⟩
    rintro habort rfl
    obtain ⟨fault, hfault⟩ := h.exists_error_iff.mpr ⟨habort, node, hnode, hbooking, hlookup⟩
    rw [hsuccess] at hfault
    cases hfault

/-- Under the policy to stop, a booking that does not exist is not reported. -/
theorem entityId_ne_of_absent (h : Course reporting tree context .abort steps result transcript)
    {node : Node} (hnode : (node, .absent) ∈ attempts steps) {failure : Failure}
    (hreport : .exchange (.report failure) () ∈ transcript) : failure.entityId ≠ node.id := by
  intro hid
  rw [← Transcript.mem_reports_iff, h.reports_eq, List.mem_flatMap] at hreport
  obtain ⟨⟨other, encounter⟩, hother, hfailure⟩ := hreport
  rw [entityId_of_mem_failures hfailure] at hid
  -- what is reported is the attempt that found nothing, and that has no failure
  obtain ⟨rfl, rfl⟩ := Prod.mk.inj (h.attempt_eq_of_id_eq hother hnode hid)
  cases hfailure

/-- Whom the steps before the end attempt, no look-up of the run finds missing. -/
theorem absent_notMem_of_earlier {earlier later : List Step}
    (h : Course reporting tree context policy (earlier ++ later) result transcript)
    (hquiet : ∀ step ∈ earlier, step.stops .abort = false) {node : Node}
    (hnode : node ∈ (attempts earlier).map Prod.fst) :
    .exchange (.findBooking node.id) (.ok none) ∉ transcript := by
  intro hlookup
  obtain ⟨⟨node, encounter⟩, hattempt, rfl⟩ := List.mem_map.mp hnode
  obtain ⟨found, habsent, hid⟩ := h.absent_mem_iff.mp hlookup
  have hthere : (node, encounter) ∈ attempts (earlier ++ later) := by
    rw [attempts_append]
    exact List.mem_append_left _ hattempt
  -- a descendant is attempted once, so this look-up belongs to the earlier attempt
  obtain ⟨rfl, rfl⟩ := Prod.mk.inj (h.attempt_eq_of_id_eq habsent hthere hid)
  exact absent_notMem_of_quiet hquiet found (mem_attempts_iff.mp hattempt)

/-- A run that fails is not told to be complete. -/
theorem complete_notMem_of_error
    (h : Course reporting tree context policy steps result transcript) {fault : Fault}
    (hfault : result = .error fault) (tally : Log.Tally) :
    .told ⟨.complete tally, none⟩ ∉ transcript := by
  cases h with
  | complete => cases hfault
  | stopped =>
    intro htold
    rcases List.mem_append.mp htold with htold | htold
    · simp [opening] at htold
    rcases List.mem_append.mp htold with htold | htold
    · obtain ⟨step, -, hstep⟩ := List.mem_flatMap.mp htold
      exact complete_notMem_transcript reporting policy context step tally hstep
    · simp at htold

/-- A run that fails visits the eligible descendants up to the first booking that does not exist,
finds the bookings before it, and ends with its look-up. -/
theorem of_error (h : Course reporting tree context policy steps result transcript)
    {fault : Fault} (hfault : result = .error fault) :
    ∃ before node after front,
      tree.root.eligibleDescendants tree.blocking = before ++ node :: after ∧
        transcript.Visits (before ++ [node]) ∧
        node.kind = .booking ∧ fault = .entityNotFound "booking" node.id ∧
        (∀ earlier ∈ before, .exchange (.findBooking earlier.id) (.ok none) ∉ transcript) ∧
        (∀ earlier ∈ before, earlier.kind = .booking →
          ∃ reply, .exchange (.findBooking earlier.id) reply ∈ transcript ∧ reply ≠ .ok none) ∧
        transcript = front ++ [.exchange (.findBooking node.id) (.ok none),
          .told ⟨.missingBooking node.id, none⟩] ∧
        (∀ failure, .exchange (.report failure) () ∈ transcript → failure.entityId ≠ node.id) ∧
        ∀ tally, .told ⟨.complete tally, none⟩ ∉ transcript := by
  have hunfinished := h.complete_notMem_of_error hfault
  have hcourse := h
  cases h with
  | complete => cases hfault
  | @stopped earlier node rest hassessed hfits hquiet hkind hpolicy =>
    cases hfault
    subst hpolicy
    have hattempted : (attempts (earlier ++ [.attempted node .absent])).map Prod.fst =
        (attempts earlier).map Prod.fst ++ [node] := by
      rw [attempts_append, List.map_append]
      rfl
    have hlast : (node, .absent) ∈ attempts (earlier ++ [.attempted node .absent]) :=
      mem_attempts_iff.mpr (List.mem_append_right _ List.mem_cons_self)
    refine ⟨(attempts earlier).map Prod.fst, node, _,
      opening tree context ++ (earlier.flatMap (Step.transcript reporting .abort context) ++
        [.told ⟨.withdrawing node.kind node.id, none⟩]),
      eligibleDescendants_eq_append hassessed hfits, hattempted ▸ hcourse.visits, hkind, rfl,
      fun other => hcourse.absent_notMem_of_earlier hquiet, ?_, by simp,
      fun failure => hcourse.entityId_ne_of_absent hlast, hunfinished⟩
    intro other hother hbooking
    obtain ⟨reply, hlookup⟩ :=
      hcourse.exists_lookup (hattempted.symm ▸ List.mem_append_left _ hother) hbooking
    refine ⟨reply, hlookup, ?_⟩
    rintro rfl
    exact hcourse.absent_notMem_of_earlier hquiet hother hlookup

end Course

/-- Eligible are, in pre-order, the descendants that can be withdrawn and have nothing in their
subtree that blocks.  A cascade fails exactly when the policy is to stop and the look-up of an
eligible booking finds nothing.  If it succeeds, it has visited all that is eligible, in pre-order,
and looked up every booking among it, and under the policy to stop no such look-up found nothing.

If it fails, the fault names the first eligible booking in pre-order that does not exist.  Those
before it and the booking itself have been visited, in this order, and nobody else; the bookings
before it were looked up, and no such look-up found nothing.  The look-up of the missing booking is
the last call, and the alarm over it is the last that is told; it is not reported, and the cascade
is not told to be complete.

What a collaborator cannot answer is reported at once instead. -/
theorem error_iff_missing_booking (reporting : Reporting) (tree : Tree) (context : Context)
    (config : Config) (world : World σ) (state : σ) :
    let run := (withdrawDescendants reporting tree context config).run world state
    let eligible := (Forest.preorder tree.root.children).filter fun node =>
      node.status.withdrawable = true ∧ ∀ below ∈ node.preorder, below.status.blocksAncestors = false
    ((∃ fault, run.result = .error fault) ↔ config.onMissingBooking = .abort ∧
        ∃ node ∈ eligible, node.kind = .booking ∧
          .exchange (.findBooking node.id) (.ok none) ∈ run.transcript) ∧
      (run.result = .ok () → run.transcript.Visits eligible ∧
        ∀ node ∈ eligible, node.kind = .booking →
          ∃ reply, .exchange (.findBooking node.id) reply ∈ run.transcript ∧
            (config.onMissingBooking = .abort → reply ≠ .ok none)) ∧
      (∀ fault, run.result = .error fault → ∃ before node after front,
        eligible = before ++ node :: after ∧ run.transcript.Visits (before ++ [node]) ∧
          node.kind = .booking ∧ fault = .entityNotFound "booking" node.id ∧
          (∀ earlier ∈ before, .exchange (.findBooking earlier.id) (.ok none) ∉ run.transcript) ∧
          (∀ earlier ∈ before, earlier.kind = .booking →
            ∃ reply, .exchange (.findBooking earlier.id) reply ∈ run.transcript ∧
              reply ≠ .ok none) ∧
          run.transcript = front ++ [.exchange (.findBooking node.id) (.ok none),
            .told ⟨.missingBooking node.id, none⟩] ∧
          (∀ failure, .exchange (.report failure) () ∈ run.transcript →
            failure.entityId ≠ node.id) ∧
          ∀ tally, .told ⟨.complete tally, none⟩ ∉ run.transcript) ∧
      ∀ before entry after fault, run.transcript.exchanges = before ++ entry :: after →
        entry.fault? = some fault → ∃ node ∈ eligible,
          after.head? = some (.exchange (.report ⟨node.kind, node.id, context.triggeringKind,
            context.triggeringId, .infrastructure fault.message⟩) ()) := by
  intro run eligible
  have hcourse := course_run reporting tree context config world state
  have heligible : eligible = tree.root.eligibleDescendants tree.blocking :=
    tree.eligibleDescendants_eq_filter.symm
  rw [heligible]
  refine ⟨hcourse.exists_error_iff, hcourse.of_ok, fun fault => hcourse.of_error, ?_⟩
  intro before entry after fault hsplit hfault
  have hreported : FaultsReported context (tree.root.eligibleDescendants tree.blocking)
      run.transcript.exchanges := by
    rw [hcourse.exchanges_eq]
    exact faultsReported_attempts config.onMissingBooking context fun node hnode =>
      hcourse.map_fst_attempts_isPrefix.subset hnode
  rw [hsplit] at hreported
  exact hreported.head?_eq hfault

end Cascade
end WithdrawalCascade
