import Mathlib.Data.List.Basic
import WithdrawalCascade.Proofs.Cascade.Encounter

/-!
# The course of a cascade

`Cascade.visit` keeps of each descendant no more than a count.  To say what a cascade does, one has
to know which descendant was taken when and how its collaborator answered, so this file runs the
same loop with a record kept: `Cascade.record` makes the calls and tells the log what `visit` does,
and gives back one `Step` for each descendant that was taken.

* `visit_eq_record`: the loop is the recorded loop followed by the counting of its steps.
* `record_transcript`: all that happens is what the steps say, one after the other.
* `proceeds_record`: the steps take the assessed descendants in order, and end early only after a
  booking that does not exist, under the policy to stop.
* `course_run`: the three together, for a whole run.  What is said of runs elsewhere is read off a
  `Course`, with no further look at the loop.
-/

namespace WithdrawalCascade
namespace Cascade

variable {σ : Type}

/-! ## 1.  Steps -/

/-- What the loop does about one assessed descendant. -/
inductive Step where
  /-- The descendant is left alone. -/
  | skipped (node : Node) (reason : Eligibility)
  /-- The descendant is handed to its collaborator. -/
  | attempted (node : Node) (encounter : Encounter)

/-- What happens when a failure is reported. -/
def Reporting.entries (reporting : Reporting) (failure : Failure) : Transcript :=
  .exchange (.report failure) () ::
    match reporting with
    | .plain => []
    | .logged => [.told ⟨.failed failure, none⟩]

namespace Step

/-- The assessed descendant that a step is about. -/
def assessed : Step → Node × Eligibility
  | skipped node reason => (node, reason)
  | attempted node _ => (node, .eligible)

/-- The attempt of a step, none where the descendant is left alone. -/
def attempt? : Step → Option (Node × Encounter)
  | skipped .. => none
  | attempted node encounter => some (node, encounter)

/-- A descendant is left alone for a reason, and one that is not has an encounter of its kind. -/
def Fits : Step → Prop
  | skipped _ reason => reason ≠ .eligible
  | attempted node encounter => encounter.kind = node.kind

/-- Whether a step ends the cascade. -/
def stops (policy : MissingBookingPolicy) : Step → Bool
  | skipped .. => false
  | attempted _ encounter => encounter.stops policy

/-- All that happens in a step: what is told first, the calls, the alarm, and the report of a
failure.  Of the last two at most one comes. -/
def transcript (reporting : Reporting) (policy : MissingBookingPolicy) (context : Context) :
    Step → Transcript
  | skipped node reason => [.told ⟨.skipping node.kind node.id reason, none⟩]
  | attempted node encounter =>
    .told ⟨.withdrawing node.kind node.id, none⟩ :: (encounter.exchanges context node.id ++
      (encounter.alarms policy node.id ++
        (encounter.failures policy context node).flatMap reporting.entries))

/-- The tally with one more step, or the fault of a step that ends the cascade. -/
def account (policy : MissingBookingPolicy) (tally : Log.Tally) : Step → Except Fault Log.Tally
  | skipped .. => .ok (Cascade.skipped tally)
  | attempted node encounter =>
    match encounter.attempt policy with
    | .completed => .ok (completed tally)
    | .failed _ => .ok (failed tally)
    | .missing => .error (.entityNotFound "booking" node.id)

end Step

/-- Takes assessed descendants as `visit` does, and keeps a record of the steps. -/
def record (reporting : Reporting) (policy : MissingBookingPolicy) (context : Context) :
    List (Node × Eligibility) → Dialogue (List Step)
  | [] => return []
  | (node, .eligible) :: rest => do
    Dialogue.event (.withdrawing node.kind node.id)
    let encounter ← consult context node
    encounter.alarm policy node.id
    match encounter.attempt policy with
    | .completed => do
      let steps ← record reporting policy context rest
      return .attempted node encounter :: steps
    | .failed kind => do
      report reporting (Failure.of node context kind)
      let steps ← record reporting policy context rest
      return .attempted node encounter :: steps
    | .missing => return [.attempted node encounter]
  | (node, reason) :: rest => do
    Dialogue.event (.skipping node.kind node.id reason)
    let steps ← record reporting policy context rest
    return .skipped node reason :: steps

/-- The loop is the recorded loop with its steps counted. -/
theorem visit_eq_record (reporting : Reporting) (policy : MissingBookingPolicy)
    (context : Context) (tally : Log.Tally) (assessed : List (Node × Eligibility)) :
    visit reporting policy context tally assessed = do
      let steps ← record reporting policy context assessed
      return steps.foldlM (Step.account policy) tally := by
  induction assessed generalizing tally with
  | nil => rfl
  | cons first rest ih =>
    obtain ⟨node, eligibility⟩ := first
    cases eligibility with
    | eligible =>
      simp only [visit, record, attempt_eq_consult, Dialogue.bind_assoc, Dialogue.pure_bind]
      refine congrArg _ (funext fun _ => congrArg _ (funext fun encounter =>
        congrArg _ (funext fun _ => ?_)))
      cases hattempt : encounter.attempt policy with
      | completed =>
        simp only [ih, Dialogue.bind_assoc, Dialogue.pure_bind, List.foldlM_cons, Step.account,
          hattempt]
        rfl
      | failed kind =>
        simp only [ih, Dialogue.bind_assoc, Dialogue.pure_bind, List.foldlM_cons, Step.account,
          hattempt]
        rfl
      | missing =>
        simp only [Dialogue.pure_bind, List.foldlM_cons, Step.account, hattempt]
        rfl
    | notWithdrawable =>
      simp only [visit, record, ih, Dialogue.bind_assoc, Dialogue.pure_bind, List.foldlM_cons]
      rfl
    | blocked =>
      simp only [visit, record, ih, Dialogue.bind_assoc, Dialogue.pure_bind, List.foldlM_cons]
      rfl

/-! ## 2.  What the steps say -/

theorem run_report (world : World σ) (reporting : Reporting) (failure : Failure) (state : σ) :
    ((report reporting failure).run world state).transcript = reporting.entries failure := by
  cases reporting <;> rfl

/-- **Nothing happens outside the steps.** -/
theorem record_transcript (world : World σ) (reporting : Reporting)
    (policy : MissingBookingPolicy) (context : Context) (assessed : List (Node × Eligibility))
    (state : σ) :
    ((record reporting policy context assessed).run world state).transcript =
      ((record reporting policy context assessed).run world state).result.flatMap
        (Step.transcript reporting policy context) := by
  induction assessed generalizing state with
  | nil => rfl
  | cons first rest ih =>
    obtain ⟨node, eligibility⟩ := first
    cases eligibility with
    | eligible =>
      simp only [record, Dialogue.run_andThen, Dialogue.run_event, Encounter.run_alarm]
      have hcalls := (run_consult world context node state).2
      generalize (consult context node).run world state = met at hcalls ⊢
      cases hattempt : met.result.attempt policy with
      | completed =>
        obtain ⟨-, hfailure⟩ := Encounter.attempt_eq_completed_iff.mp hattempt
        simp [ih, hcalls, Step.transcript, Encounter.failures, hfailure]
      | failed kind =>
        obtain ⟨-, hfailure⟩ := Encounter.attempt_eq_failed_iff.mp hattempt
        simp [ih, hcalls, run_report, Step.transcript, Encounter.failures, hfailure, Failure.of]
      | missing =>
        have hstops := Encounter.attempt_eq_missing_iff.mp hattempt
        have hfailure := Encounter.failure?_eq_none_of_stops hstops
        simp [hcalls, Step.transcript, Encounter.failures, hfailure]
    | notWithdrawable => simp [record, ih, Step.transcript]
    | blocked => simp [record, ih, Step.transcript]

/-- How far steps under a policy get through assessed descendants: to the end, unless a step ends
the cascade. -/
inductive Proceeds (policy : MissingBookingPolicy) :
    List (Node × Eligibility) → List Step → Prop where
  | done : Proceeds policy [] []
  | next (step : Step) {rest : List (Node × Eligibility)} {steps : List Step} :
      step.Fits → step.stops policy = false → Proceeds policy rest steps →
      Proceeds policy (step.assessed :: rest) (step :: steps)
  | stop (node : Node) {encounter : Encounter} {rest : List (Node × Eligibility)} :
      encounter.kind = node.kind → encounter.stops policy = true →
      Proceeds policy ((node, .eligible) :: rest) [.attempted node encounter]

theorem proceeds_record (world : World σ) (reporting : Reporting)
    (policy : MissingBookingPolicy) (context : Context) (assessed : List (Node × Eligibility))
    (state : σ) :
    Proceeds policy assessed
      ((record reporting policy context assessed).run world state).result := by
  induction assessed generalizing state with
  | nil => exact .done
  | cons first rest ih =>
    obtain ⟨node, eligibility⟩ := first
    cases eligibility with
    | eligible =>
      simp only [record, Dialogue.run_andThen, Dialogue.run_event, Encounter.run_alarm]
      have hkind := (run_consult world context node state).1
      generalize (consult context node).run world state = met at hkind ⊢
      cases hattempt : met.result.attempt policy with
      | completed =>
        obtain ⟨hstops, -⟩ := Encounter.attempt_eq_completed_iff.mp hattempt
        simp only [Dialogue.run_andThen, Dialogue.run_pure]
        exact .next (.attempted node met.result) hkind hstops (ih _)
      | failed kind =>
        obtain ⟨hstops, -⟩ := Encounter.attempt_eq_failed_iff.mp hattempt
        simp only [Dialogue.run_andThen, Dialogue.run_pure]
        exact .next (.attempted node met.result) hkind hstops (ih _)
      | missing =>
        exact .stop node hkind (Encounter.attempt_eq_missing_iff.mp hattempt)
    | notWithdrawable =>
      simp only [record, Dialogue.run_andThen, Dialogue.run_event, Dialogue.run_pure]
      exact .next (.skipped node .notWithdrawable) (by simp [Step.Fits]) rfl (ih _)
    | blocked =>
      simp only [record, Dialogue.run_andThen, Dialogue.run_event, Dialogue.run_pure]
      exact .next (.skipped node .blocked) (by simp [Step.Fits]) rfl (ih _)

/-! ## 3.  The whole run -/

/-- What every cascade tells first. -/
def opening (tree : Tree) (context : Context) : Transcript :=
  [.told ⟨.tree tree.render, none⟩,
    .told ⟨.starting context tree.nodeCount
      ((tree.root.assessDescendants tree.blocking).countP fun assessed => assessed.2 = .eligible),
      none⟩]

/-- The steps of the cascade that a world answers from `state` on. -/
def steps (reporting : Reporting) (tree : Tree) (context : Context) (config : Config)
    (world : World σ) (state : σ) : List Step :=
  ((record reporting config.onMissingBooking context
    (tree.root.assessDescendants tree.blocking)).run world state).result

/-- The result and the transcript of a cascade that takes the given steps.  Either the steps reach
the end, and a tally is told; or the last of them looks up a booking that does not exist. -/
inductive Course (reporting : Reporting) (tree : Tree) (context : Context)
    (policy : MissingBookingPolicy) :
    List Step → Except Fault Unit → Transcript → Prop where
  | complete {steps : List Step} {tally : Log.Tally}
      (hassessed : tree.root.assessDescendants tree.blocking = steps.map Step.assessed)
      (hfits : ∀ step ∈ steps, step.Fits)
      (hquiet : ∀ step ∈ steps, step.stops policy = false)
      (htally : steps.foldlM (Step.account policy) {} = .ok tally) :
      Course reporting tree context policy steps (.ok ())
        (opening tree context ++ (steps.flatMap (Step.transcript reporting policy context) ++
          [.told ⟨.complete tally, none⟩]))
  | stopped {earlier : List Step} {node : Node} {rest : List (Node × Eligibility)}
      (hassessed : tree.root.assessDescendants tree.blocking =
        earlier.map Step.assessed ++ (node, .eligible) :: rest)
      (hfits : ∀ step ∈ earlier, step.Fits)
      (hquiet : ∀ step ∈ earlier, step.stops policy = false)
      (hkind : node.kind = .booking) (hpolicy : policy = .abort) :
      Course reporting tree context policy (earlier ++ [.attempted node .absent])
        (.error (.entityNotFound "booking" node.id))
        (opening tree context ++ (earlier.flatMap (Step.transcript reporting policy context) ++
          [.told ⟨.withdrawing node.kind node.id, none⟩,
            .exchange (.findBooking node.id) (.ok none),
            .told ⟨.missingBooking node.id, none⟩]))

/-- The two ways in which steps proceed. -/
theorem Proceeds.complete_or_stopped {policy : MissingBookingPolicy}
    {assessed : List (Node × Eligibility)} {steps : List Step} (h : Proceeds policy assessed steps) :
    (assessed = steps.map Step.assessed ∧ (∀ step ∈ steps, step.Fits) ∧
        ∀ step ∈ steps, step.stops policy = false) ∨
      ∃ earlier node rest, steps = earlier ++ [.attempted node .absent] ∧
        assessed = earlier.map Step.assessed ++ (node, .eligible) :: rest ∧
        (∀ step ∈ earlier, step.Fits) ∧ (∀ step ∈ earlier, step.stops policy = false) ∧
        node.kind = .booking ∧ policy = .abort := by
  induction h with
  | done => exact Or.inl ⟨rfl, by simp, by simp⟩
  | next step hfit hstep _ ih =>
    rcases ih with ⟨hassessed, hfits, hquiet⟩ |
      ⟨earlier, node, later, hsteps, hassessed, hfits, hquiet, hkind, hpolicy⟩
    · refine Or.inl ⟨?_, ?_, ?_⟩
      · rw [hassessed, List.map_cons]
      · exact List.forall_mem_cons.mpr ⟨hfit, hfits⟩
      · exact List.forall_mem_cons.mpr ⟨hstep, hquiet⟩
    · refine Or.inr ⟨step :: earlier, node, later, ?_, ?_, ?_, ?_, hkind, hpolicy⟩
      · rw [hsteps, List.cons_append]
      · rw [hassessed, List.map_cons, List.cons_append]
      · exact List.forall_mem_cons.mpr ⟨hfit, hfits⟩
      · exact List.forall_mem_cons.mpr ⟨hstep, hquiet⟩
  | @stop node encounter rest hencounter hstops =>
    obtain ⟨rfl, hpolicy⟩ := Encounter.stops_eq_true_iff.mp hstops
    exact Or.inr ⟨[], node, rest, rfl, rfl, by simp, by simp, hencounter.symm, hpolicy⟩

/-- Steps that do not end the cascade can be counted. -/
theorem exists_tally {policy : MissingBookingPolicy} {steps : List Step}
    (hquiet : ∀ step ∈ steps, step.stops policy = false) (tally : Log.Tally) :
    ∃ total, steps.foldlM (Step.account policy) tally = .ok total := by
  induction steps generalizing tally with
  | nil => exact ⟨tally, rfl⟩
  | cons step rest ih =>
    obtain ⟨hstep, hrest⟩ := List.forall_mem_cons.mp hquiet
    obtain ⟨next, hnext⟩ : ∃ next, step.account policy tally = .ok next := by
      cases step with
      | skipped node reason => exact ⟨_, rfl⟩
      | attempted node encounter =>
        have hstops : encounter.stops policy = false := hstep
        cases hattempt : encounter.attempt policy with
        | completed => exact ⟨completed tally, by rw [Step.account, hattempt]⟩
        | failed kind => exact ⟨failed tally, by rw [Step.account, hattempt]⟩
        | missing =>
          rw [Encounter.attempt_eq_missing_iff.mp hattempt] at hstops
          exact absurd hstops (by decide)
    obtain ⟨total, htotal⟩ := ih hrest next
    refine ⟨total, ?_⟩
    rw [List.foldlM_cons, hnext]
    exact htotal

/-- **Every run has a course.** -/
theorem course_run (reporting : Reporting) (tree : Tree) (context : Context) (config : Config)
    (world : World σ) (state : σ) :
    Course reporting tree context config.onMissingBooking
      (steps reporting tree context config world state)
      ((withdrawDescendants reporting tree context config).run world state).result
      ((withdrawDescendants reporting tree context config).run world state).transcript := by
  have htranscript := record_transcript world reporting config.onMissingBooking context
    (tree.root.assessDescendants tree.blocking) state
  have hproceeds := proceeds_record world reporting config.onMissingBooking context
    (tree.root.assessDescendants tree.blocking) state
  simp only [steps, withdrawDescendants, visit_eq_record, Dialogue.run_andThen,
    Dialogue.run_event, Dialogue.run_pure]
  generalize (record reporting config.onMissingBooking context
    (tree.root.assessDescendants tree.blocking)).run world state = played at htranscript hproceeds ⊢
  rcases hproceeds.complete_or_stopped with ⟨hassessed, hfits, hquiet⟩ |
    ⟨earlier, node, rest, hsteps, hassessed, hfits, hquiet, hkind, hpolicy⟩
  · obtain ⟨tally, htally⟩ := exists_tally hquiet {}
    simp only [htally, htranscript, Dialogue.run_andThen, Dialogue.run_event, Dialogue.run_pure,
      List.append_nil]
    exact .complete hassessed hfits hquiet htally
  · obtain ⟨tally, htally⟩ := exists_tally hquiet {}
    have haccount : played.result.foldlM (Step.account config.onMissingBooking) {} =
        .error (.entityNotFound "booking" node.id) := by
      rw [hsteps, List.foldlM_append, htally, hpolicy]
      rfl
    have hlast : Step.transcript reporting config.onMissingBooking context
        (.attempted node .absent) =
        [.told ⟨.withdrawing node.kind node.id, none⟩, .exchange (.findBooking node.id) (.ok none),
          .told ⟨.missingBooking node.id, none⟩] := by
      rw [hpolicy]
      rfl
    simp only [haccount, htranscript, Dialogue.run_pure, List.append_nil]
    rw [hsteps, List.flatMap_append, List.flatMap_singleton, hlast]
    exact .stopped hassessed hfits hquiet hkind hpolicy

/-! ## 4.  Attempts

What a run does outside the log is a matter of its attempts: which descendants were handed over, and
what each encounter was. -/

/-- The attempts among some steps, each a descendant with its encounter. -/
def attempts (steps : List Step) : List (Node × Encounter) :=
  steps.filterMap Step.attempt?

@[simp] theorem attempts_nil : attempts [] = [] := rfl

@[simp] theorem attempts_skipped (node : Node) (reason : Eligibility) (rest : List Step) :
    attempts (.skipped node reason :: rest) = attempts rest := rfl

@[simp] theorem attempts_attempted (node : Node) (encounter : Encounter) (rest : List Step) :
    attempts (.attempted node encounter :: rest) = (node, encounter) :: attempts rest := rfl

theorem attempts_append (steps rest : List Step) :
    attempts (steps ++ rest) = attempts steps ++ attempts rest :=
  List.filterMap_append

theorem mem_attempts_iff {steps : List Step} {node : Node} {encounter : Encounter} :
    (node, encounter) ∈ attempts steps ↔ .attempted node encounter ∈ steps := by
  rw [attempts, List.mem_filterMap]
  constructor
  · rintro ⟨step, hmem, hstep⟩
    cases step with
    | skipped other reason => exact absurd hstep (by simp [Step.attempt?])
    | attempted other met =>
      obtain ⟨rfl, rfl⟩ : other = node ∧ met = encounter := by simpa [Step.attempt?] using hstep
      exact hmem
  · intro hmem
    exact ⟨_, hmem, rfl⟩

/-- The attempts are made on the eligible ones among the assessed descendants. -/
theorem map_fst_attempts {steps : List Step} (hfits : ∀ step ∈ steps, step.Fits) :
    (attempts steps).map Prod.fst =
      ((steps.map Step.assessed).filter fun assessed => assessed.2 = .eligible).map (·.1) := by
  induction steps with
  | nil => rfl
  | cons step rest ih =>
    obtain ⟨hstep, hrest⟩ := List.forall_mem_cons.mp hfits
    cases step with
    | skipped node reason =>
      have hreason : reason ≠ .eligible := hstep
      simpa [Step.assessed, hreason] using ih hrest
    | attempted node encounter =>
      simpa [Step.assessed] using ih hrest

/-- The eligible descendants are those that were attempted and those that were left over. -/
theorem eligibleDescendants_eq_append {tree : Tree} {steps : List Step}
    {rest : List (Node × Eligibility)}
    (hassessed : tree.root.assessDescendants tree.blocking = steps.map Step.assessed ++ rest)
    (hfits : ∀ step ∈ steps, step.Fits) :
    tree.root.eligibleDescendants tree.blocking = (attempts steps).map Prod.fst ++
      (rest.filter fun assessed => assessed.2 = .eligible).map (·.1) := by
  rw [Node.eligibleDescendants, hassessed, List.filter_append, List.map_append,
    map_fst_attempts hfits]

/-- The calls of an attempt, the report of its failure included. -/
def attemptCalls (policy : MissingBookingPolicy) (context : Context)
    (attempted : Node × Encounter) : Transcript :=
  attempted.2.exchanges context attempted.1.id ++
    (attempted.2.failures policy context attempted.1).map fun failure =>
      .exchange (.report failure) ()

/-- A failure of an attempt bears the identifier of its descendant. -/
theorem entityId_of_mem_failures {policy : MissingBookingPolicy} {context : Context} {node : Node}
    {encounter : Encounter} {failure : Failure}
    (h : failure ∈ encounter.failures policy context node) : failure.entityId = node.id := by
  obtain ⟨kind, -, rfl⟩ := List.mem_map.mp h
  rfl

theorem exchanges_append (front back : Transcript) :
    (front ++ back).exchanges = front.exchanges ++ back.exchanges :=
  List.filter_append ..

/-- What a reader does not find in the log it finds in the exchanges. -/
theorem filterMap_exchanges {β : Type} {read : Entry → Option β}
    (hlog : ∀ record, read (.told record) = none) (transcript : Transcript) :
    transcript.exchanges.filterMap read = transcript.filterMap read := by
  induction transcript with
  | nil => rfl
  | cons entry rest ih =>
    cases entry with
    | told record =>
      rw [List.filterMap_cons_none (hlog record)]
      exact ih
    | exchange call reply =>
      show List.filterMap read (.exchange call reply :: Transcript.exchanges rest) = _
      rw [List.filterMap_cons, List.filterMap_cons, ih]

theorem exchanges_encounter (context : Context) (id : EntityId) (encounter : Encounter) :
    (encounter.exchanges context id).exchanges = encounter.exchanges context id := by
  cases encounter <;> rfl

theorem exchanges_alarms (policy : MissingBookingPolicy) (id : EntityId) (encounter : Encounter) :
    (encounter.alarms policy id).exchanges = [] := by
  cases hstops : encounter.stops policy <;> simp [Encounter.alarms, hstops] <;> rfl

theorem exchanges_reports (reporting : Reporting) (failures : List Failure) :
    (Transcript.exchanges (failures.flatMap reporting.entries)) =
      failures.map fun failure => .exchange (.report failure) () := by
  induction failures with
  | nil => rfl
  | cons failure rest ih =>
    rw [List.flatMap_cons, exchanges_append, ih, List.map_cons]
    cases reporting <;> rfl

/-- Outside the log, steps come to the calls of their attempts. -/
theorem exchanges_steps (reporting : Reporting) (policy : MissingBookingPolicy)
    (context : Context) (steps : List Step) :
    Transcript.exchanges (steps.flatMap (Step.transcript reporting policy context)) =
      (attempts steps).flatMap (attemptCalls policy context) := by
  induction steps with
  | nil => rfl
  | cons step rest ih =>
    rw [List.flatMap_cons, exchanges_append, ih]
    cases step with
    | skipped node reason => rfl
    | attempted node encounter =>
      have hstep : (Step.transcript reporting policy context (.attempted node encounter)).exchanges =
          attemptCalls policy context (node, encounter) := by
        show Transcript.exchanges (_ ++ (_ ++ _)) = _
        rw [exchanges_append, exchanges_append, exchanges_encounter, exchanges_alarms,
          exchanges_reports]
        rfl
      rw [hstep]
      rfl

namespace Course

variable {reporting : Reporting} {tree : Tree} {context : Context}
  {policy : MissingBookingPolicy} {steps : List Step} {result : Except Fault Unit}
  {transcript : Transcript}

/-- **The trace of a run** is made of the calls of its attempts, one attempt after the other. -/
theorem exchanges_eq (h : Course reporting tree context policy steps result transcript) :
    transcript.exchanges = (attempts steps).flatMap (attemptCalls policy context) := by
  cases h with
  | complete hassessed hfits hquiet htally =>
    rw [exchanges_append, exchanges_append, exchanges_steps]
    exact List.append_nil _
  | @stopped earlier node rest hassessed hfits hquiet hkind hpolicy =>
    rw [exchanges_append, exchanges_append, exchanges_steps, attempts_append, List.flatMap_append,
      hpolicy]
    rfl

/-- Every attempted descendant has an encounter of its kind. -/
theorem kind_eq (h : Course reporting tree context policy steps result transcript) {node : Node}
    {encounter : Encounter} (hmem : (node, encounter) ∈ attempts steps) :
    encounter.kind = node.kind := by
  have hstep := mem_attempts_iff.mp hmem
  cases h with
  | complete hassessed hfits hquiet htally => exact hfits _ hstep
  | @stopped earlier last rest hassessed hfits hquiet hkind hpolicy =>
    rcases List.mem_append.mp hstep with hearlier | hlast
    · exact hfits _ hearlier
    · obtain ⟨rfl, rfl⟩ : node = last ∧ encounter = .absent := by simpa using hlast
      exact hkind.symm

/-- The attempted descendants come first among the eligible ones. -/
theorem map_fst_attempts_isPrefix (h : Course reporting tree context policy steps result transcript) :
    (attempts steps).map Prod.fst <+: tree.root.eligibleDescendants tree.blocking := by
  cases h with
  | complete hassessed hfits hquiet htally =>
    rw [eligibleDescendants_eq_append (hassessed.trans (List.append_nil _).symm) hfits]
    exact List.prefix_append _ _
  | @stopped earlier last rest hassessed hfits hquiet hkind hpolicy =>
    rw [eligibleDescendants_eq_append hassessed hfits, attempts_append, List.map_append]
    exact ⟨_, List.append_assoc _ _ _⟩

/-- In a run that succeeds every eligible descendant is attempted. -/
theorem map_fst_attempts_of_ok (h : Course reporting tree context policy steps result transcript)
    (hsuccess : result = .ok ()) :
    (attempts steps).map Prod.fst = tree.root.eligibleDescendants tree.blocking := by
  cases h with
  | stopped => cases hsuccess
  | complete hassessed hfits hquiet htally =>
    rw [eligibleDescendants_eq_append (hassessed.trans (List.append_nil _).symm) hfits]
    exact (List.append_nil _).symm

end Course

end Cascade
end WithdrawalCascade
