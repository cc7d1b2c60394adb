import WithdrawalCascade.Proofs.Blocking
import WithdrawalCascade.Proofs.Cascade.Course

/-!
# What is reported

An attempt can fail in several ways: the collaborator refuses, or does not find the entity, or
rejects the withdrawal with a text; it gives no answer, to a withdrawal, a look-up or a
cancellation; or a booking does not exist and the policy is to go on.  `Encounter.failures` lists
for each of them the failure to report, and for a success nothing.

The loop reports in one place what attempts find out in another.  `Course.reports_eq` says that
nothing is lost on the way: the reports of a run are the failures of its attempts, in order, each
attempt's own failure before the next attempt begins.
-/

namespace WithdrawalCascade

/-- The failure that a call reports, if it is a report. -/
def Call.report? : Call → Option Failure
  | .report failure => some failure
  | _ => none

/-- The descendant that a record says is about to be withdrawn, if it says so. -/
def Log.Record.withdrawing? (record : Log.Record) : Option (EntityKind × EntityId) :=
  match record.event with
  | .withdrawing kind id => some (kind, id)
  | _ => none

/-- Whether an event is about the cascade as a whole and not about one descendant. -/
def Log.Event.isOverall : Event → Bool
  | .tree .. | .starting .. | .complete .. => true
  | _ => false

namespace Transcript

/-- The failures that were reported, in order. -/
def reports (transcript : Transcript) : List Failure :=
  transcript.filterMap fun entry => entry.call?.bind Call.report?

/-- The descendants that the log says were attempted, in order. -/
def attempted (transcript : Transcript) : List (EntityKind × EntityId) :=
  transcript.filterMap fun entry => entry.record?.bind Log.Record.withdrawing?

theorem mem_reports_iff {transcript : Transcript} {failure : Failure} :
    failure ∈ transcript.reports ↔ .exchange (.report failure) () ∈ transcript := by
  rw [reports, List.mem_filterMap]
  constructor
  · rintro ⟨entry, hentry, hreport⟩
    cases entry with
    | told record => cases hreport
    | exchange call reply =>
      cases call with
      | report other =>
        cases hreport
        exact hentry
      | _ => cases hreport
  · intro hentry
    exact ⟨_, hentry, rfl⟩

theorem attempted_append (front back : Transcript) :
    attempted (front ++ back) = attempted front ++ attempted back :=
  List.filterMap_append

/-- The exchanges say nothing of what the log says. -/
theorem attempted_exchanges (transcript : Transcript) : attempted transcript.exchanges = [] := by
  rw [attempted, List.filterMap_eq_nil_iff]
  intro entry hentry
  cases entry with
  | exchange call reply => rfl
  | told record => exact absurd (List.mem_filter.mp hentry).2 (by simp [Entry.call?])

end Transcript

namespace Cascade

variable {σ : Type}

/-! ## 1.  Reports -/

/-- An encounter itself reports nothing. -/
theorem reports_encounter (context : Context) (id : EntityId) (encounter : Encounter) :
    Transcript.reports (encounter.exchanges context id) = [] := by
  cases encounter <;> rfl

/-- An attempt reports its failures. -/
theorem reports_attemptCalls (policy : MissingBookingPolicy) (context : Context) (node : Node)
    (encounter : Encounter) :
    Transcript.reports (attemptCalls policy context (node, encounter)) =
      encounter.failures policy context node := by
  have hreports : ∀ failures : List Failure, Transcript.reports
      (failures.map fun failure => .exchange (.report failure) ()) = failures := by
    intro failures
    induction failures with
    | nil => rfl
    | cons failure rest ih => exact congrArg (failure :: ·) ih
  have hencounter := reports_encounter context node.id encounter
  rw [Transcript.reports] at hencounter
  rw [attemptCalls, Transcript.reports, List.filterMap_append, hencounter]
  exact hreports _

/-- **No failure is lost, and none is made up.** -/
theorem Course.reports_eq {reporting : Reporting} {tree : Tree} {context : Context}
    {policy : MissingBookingPolicy} {steps : List Step} {result : Except Fault Unit}
    {transcript : Transcript}
    (h : Course reporting tree context policy steps result transcript) :
    transcript.reports =
      (attempts steps).flatMap fun attempted => attempted.2.failures policy context attempted.1 := by
  rw [Transcript.reports, ← filterMap_exchanges fun _ => rfl, h.exchanges_eq,
    List.filterMap_flatMap]
  exact List.flatMap_congr fun attempted _ =>
    reports_attemptCalls policy context attempted.1 attempted.2

/-- There is at most one failure for each attempt, and it bears the identifier of its descendant. -/
theorem sublist_entityId_failures (policy : MissingBookingPolicy) (context : Context)
    (attempted : List (Node × Encounter)) :
    ((attempted.flatMap fun attempted =>
        attempted.2.failures policy context attempted.1).map Failure.entityId).Sublist
      ((attempted.map Prod.fst).map Node.id) := by
  induction attempted with
  | nil => exact List.Sublist.refl _
  | cons first rest ih =>
    obtain ⟨node, encounter⟩ := first
    rw [List.flatMap_cons, List.map_append, List.map_cons, List.map_cons]
    cases hfailure : encounter.failure? policy with
    | none =>
      simp only [Encounter.failures, hfailure, Option.toList_none, List.map_nil, List.nil_append]
      exact ih.cons _
    | some kind =>
      simp only [Encounter.failures, hfailure, Option.toList_some, List.map_cons, List.map_nil,
        List.singleton_append]
      exact ih.cons_cons _

/-! ## 2.  What the log says was attempted -/

/-- What a step tells is about one descendant, and it is told without a span. -/
theorem told_mem_step {reporting : Reporting} {policy : MissingBookingPolicy}
    {context : Context} {step : Step} {record : Log.Record}
    (h : .told record ∈ step.transcript reporting policy context) :
    record.event.isOverall = false ∧ record.span = none := by
  cases step with
  | skipped node reason =>
    cases List.mem_singleton.mp h
    exact ⟨rfl, rfl⟩
  | attempted node encounter =>
    rcases List.mem_cons.mp h with hfirst | h
    · cases hfirst
      exact ⟨rfl, rfl⟩
    rcases List.mem_append.mp h with hcall | h
    · rw [← exchanges_encounter] at hcall
      exact absurd (List.mem_filter.mp hcall).2 (by simp [Entry.call?])
    rcases List.mem_append.mp h with halarm | hreport
    · rw [Encounter.alarms] at halarm
      split at halarm
      · cases List.mem_singleton.mp halarm
        exact ⟨rfl, rfl⟩
      · exact absurd halarm List.not_mem_nil
    · obtain ⟨failure, -, hreport⟩ := List.mem_flatMap.mp hreport
      cases reporting with
      | plain => cases List.mem_singleton.mp hreport
      | logged =>
        rcases List.mem_cons.mp hreport with hfirst | hreport
        · cases hfirst
        · cases List.mem_singleton.mp hreport
          exact ⟨rfl, rfl⟩

/-- The log says of each attempt that it begins, and of nothing else. -/
theorem attempted_steps (reporting : Reporting) (policy : MissingBookingPolicy)
    (context : Context) (steps : List Step) :
    Transcript.attempted (steps.flatMap (Step.transcript reporting policy context)) =
      (attempts steps).map fun attempted => (attempted.1.kind, attempted.1.id) := by
  induction steps with
  | nil => rfl
  | cons step rest ih =>
    rw [List.flatMap_cons, Transcript.attempted_append, ih]
    cases step with
    | skipped node reason => rfl
    | attempted node encounter =>
      have hcalls := Transcript.attempted_exchanges (encounter.exchanges context node.id)
      rw [exchanges_encounter] at hcalls
      have halarms : Transcript.attempted (encounter.alarms policy node.id) = [] := by
        cases hstops : encounter.stops policy <;> simp [Encounter.alarms, hstops] <;> rfl
      have hreports : ∀ failures : List Failure,
          Transcript.attempted (failures.flatMap reporting.entries) = [] := by
        intro failures
        induction failures with
        | nil => rfl
        | cons failure others hothers =>
          rw [List.flatMap_cons, Transcript.attempted_append, hothers]
          cases reporting <;> rfl
      show (node.kind, node.id) :: Transcript.attempted (_ ++ (_ ++ _)) ++ _ = _
      rw [Transcript.attempted_append, Transcript.attempted_append, hcalls, halarms, hreports]
      rfl

theorem Course.attempted_eq {reporting : Reporting} {tree : Tree} {context : Context}
    {policy : MissingBookingPolicy} {steps : List Step} {result : Except Fault Unit}
    {transcript : Transcript}
    (h : Course reporting tree context policy steps result transcript) :
    transcript.attempted =
      (attempts steps).map fun attempted => (attempted.1.kind, attempted.1.id) := by
  cases h with
  | complete hassessed hfits hquiet htally =>
    rw [Transcript.attempted_append, Transcript.attempted_append, attempted_steps]
    exact List.append_nil _
  | @stopped earlier node rest hassessed hfits hquiet hkind hpolicy =>
    rw [Transcript.attempted_append, Transcript.attempted_append, attempted_steps, attempts_append,
      List.map_append]
    rfl

/-! ## 3.  Reports and attempts -/

/-- In every run the descendants that the log says were attempted are the first of the eligible
ones, all of them if the cascade succeeds.  The trace consists of the calls of their encounters,
each encounter followed by the report of its failure if it failed; and what is reported is just
that, once for each descendant at most. -/
theorem reports_of_attempts (reporting : Reporting) (tree : Tree) (context : Context)
    (config : Config) (world : World σ) (state : σ) :
    let run := (withdrawDescendants reporting tree context config).run world state
    let eligible := tree.root.eligibleDescendants tree.blocking
    ∃ attempted : List (Node × Encounter),
      attempted.map Prod.fst <+: eligible ∧
      (run.result = .ok () → attempted.map Prod.fst = eligible) ∧
      (∀ attempt ∈ attempted, attempt.2.kind = attempt.1.kind) ∧
      run.transcript.attempted = attempted.map (fun attempt => (attempt.1.kind, attempt.1.id)) ∧
      run.transcript.exchanges = attempted.flatMap (fun attempt =>
        attempt.2.exchanges context attempt.1.id ++
          (attempt.2.failures config.onMissingBooking context attempt.1).map fun failure =>
            .exchange (.report failure) ()) ∧
      run.transcript.reports = attempted.flatMap (fun attempt =>
        attempt.2.failures config.onMissingBooking context attempt.1) ∧
      (run.transcript.reports.map Failure.entityId).Nodup := by
  intro run eligible
  have hcourse := course_run reporting tree context config world state
  have hfirst := hcourse.map_fst_attempts_isPrefix
  refine ⟨attempts (steps reporting tree context config world state), hfirst,
    hcourse.map_fst_attempts_of_ok, ?_, hcourse.attempted_eq, hcourse.exchanges_eq,
    hcourse.reports_eq, ?_⟩
  · intro attempt hattempt
    exact hcourse.kind_eq hattempt
  · rw [hcourse.reports_eq]
    exact ((sublist_entityId_failures _ _ _).trans (hfirst.sublist.map Node.id)).nodup
      tree.nodup_eligible_ids

end Cascade
end WithdrawalCascade
