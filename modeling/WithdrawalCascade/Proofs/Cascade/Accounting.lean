import WithdrawalCascade.Proofs.Cascade.Report
import WithdrawalCascade.Proofs.Descent

/-!
# The numbers in the log

A cascade announces how many nodes its tree has and how many descendants are eligible, and at its
end it tells a tally.  The three come about apart: the nodes are counted on the tree, the eligible
ones on the assessment, and the tally grows with every step.

`Accounts` is what ties the tally to what has happened so far; one step preserves it
(`Accounts.step`), and so do all the steps of a run (`Accounts.steps`).
-/

namespace WithdrawalCascade

/-- Whether an entry is a withdrawal or a cancellation that succeeded. -/
def Entry.isSuccess : Entry → Bool
  | .exchange (.withdrawPlacementRequest _) (.ok outcome) => outcome.isSuccess
  | .exchange (.withdrawPlacementApplication _) (.ok outcome) => outcome.isSuccess
  | .exchange (.cancelBooking ..) (.ok outcome) => outcome.isSuccess
  | _ => false

namespace Log.Event

/-- The numbers of nodes and of eligible descendants that are announced at the start. -/
def announced? : Event → Option (Nat × Nat)
  | starting _ nodes eligible => some (nodes, eligible)
  | _ => none

/-- The tally that is told at the end. -/
def tally? : Event → Option Tally
  | complete tally => some tally
  | _ => none

end Log.Event

namespace Transcript

/-- How many withdrawals and cancellations succeeded. -/
def successes (transcript : Transcript) : Nat :=
  transcript.countP Entry.isSuccess

/-- What was announced, in order. -/
def announced (transcript : Transcript) : List (Nat × Nat) :=
  transcript.filterMap fun entry => entry.record?.bind fun record => record.event.announced?

/-- The tallies that were told, in order. -/
def tallies (transcript : Transcript) : List Log.Tally :=
  transcript.filterMap fun entry => entry.record?.bind fun record => record.event.tally?

theorem successes_append (front back : Transcript) :
    successes (front ++ back) = front.successes + back.successes :=
  List.countP_append

theorem successes_exchanges (transcript : Transcript) :
    successes transcript.exchanges = transcript.successes := by
  rw [successes, exchanges, List.countP_filter, successes]
  refine List.countP_congr fun entry _ => ?_
  cases entry with
  | told record => simp [Entry.isSuccess]
  | exchange call reply => simp [Entry.call?]

end Transcript

namespace Cascade

variable {σ : Type}

/-! ## 1.  What one attempt counts for -/

/-- Unless it ends the cascade, an encounter without a failure is either no call at all, with an
application, or has one call that succeeded; and an encounter with a failure has none. -/
theorem successes_encounter {policy : MissingBookingPolicy} {encounter : Encounter}
    (hstops : encounter.stops policy = false) (context : Context) (id : EntityId) :
    (if encounter.kind = .application then 1 else 0) +
        Transcript.successes (encounter.exchanges context id) =
      if (encounter.failure? policy).isNone then 1 else 0 := by
  cases encounter with
  | idle => rfl
  | request answer =>
    cases answer with
    | error fault => rfl
    | ok outcome => cases outcome <;> rfl
  | furtherRequest answer =>
    cases answer with
    | error fault => rfl
    | ok outcome => cases outcome <;> rfl
  | unsearched fault => rfl
  | absent =>
    cases policy with
    | abort => cases hstops
    | skip => rfl
  | found booking now answer =>
    cases answer with
    | error fault => rfl
    | ok outcome => cases outcome <;> rfl

/-- An attempt that does not end the cascade has a failure, or it is one of an application, or a
call of it succeeded: one of the three. -/
theorem failures_add_successes {policy : MissingBookingPolicy} {encounter : Encounter}
    (hstops : encounter.stops policy = false) (context : Context) (node : Node) :
    (encounter.failures policy context node).length +
      ((if encounter.kind = .application then 1 else 0) +
        Transcript.successes (encounter.exchanges context node.id)) = 1 := by
  rw [successes_encounter hstops, Encounter.failures, List.length_map]
  cases encounter.failure? policy <;> rfl

/-- A report is no success. -/
theorem successes_attemptCalls (policy : MissingBookingPolicy) (context : Context) (node : Node)
    (encounter : Encounter) :
    Transcript.successes (attemptCalls policy context (node, encounter)) =
      Transcript.successes (encounter.exchanges context node.id) := by
  have hreports : Transcript.successes ((encounter.failures policy context node).map
      fun failure => Entry.exchange (.report failure) ()) = 0 := by
    rw [Transcript.successes, List.countP_eq_zero]
    exact List.forall_mem_map.mpr fun failure _ => by simp [Entry.isSuccess]
  rw [attemptCalls, Transcript.successes_append, hreports]
  rfl

/-! ## 2.  The tally -/

/-- A tally accounts for some steps: for the attempts among them and the descendants left alone,
for the failures reported, and for the applications and the successes. -/
structure Accounts (policy : MissingBookingPolicy) (context : Context) (steps : List Step)
    (tally : Log.Tally) : Prop where
  attempted : tally.attempted = (attempts steps).length
  taken : tally.attempted + tally.skipped = steps.length
  divided : tally.attempted = tally.completed + tally.failed
  failed : tally.failed = ((attempts steps).flatMap fun attempt =>
    attempt.2.failures policy context attempt.1).length
  completed : tally.completed =
    ((attempts steps).map Prod.fst).countP (fun node => node.kind = .application) +
      Transcript.successes ((attempts steps).flatMap (attemptCalls policy context))

namespace Accounts

variable {policy : MissingBookingPolicy} {context : Context}

/-- The tally at the start accounts for no steps. -/
theorem start : Accounts policy context [] {} :=
  ⟨rfl, rfl, rfl, rfl, rfl⟩

/-- A descendant that is left alone counts as skipped and as nothing else. -/
theorem skip {steps : List Step} {tally : Log.Tally} (h : Accounts policy context steps tally)
    (node : Node) (reason : Eligibility) :
    Accounts policy context (steps ++ [.skipped node reason]) (Cascade.skipped tally) := by
  obtain ⟨hattempted, htaken, hdivided, hfailed, hcompleted⟩ := h
  have hattempts : attempts (steps ++ [.skipped node reason]) = attempts steps := by
    rw [attempts_append, attempts_skipped, attempts_nil, List.append_nil]
  have hlength : (steps ++ [Step.skipped node reason]).length =
      tally.attempted + tally.skipped + 1 := by
    rw [List.length_append, List.length_singleton, htaken]
  constructor
  case attempted =>
    rw [hattempts]
    exact hattempted
  case taken =>
    rw [hlength]
    rfl
  case divided => exact hdivided
  case failed =>
    rw [hattempts]
    exact hfailed
  case completed =>
    rw [hattempts]
    exact hcompleted

/-- An attempt counts once: as failed if it has a failure, and otherwise as completed. -/
theorem attempt {steps : List Step} {tally next : Log.Tally}
    (h : Accounts policy context steps tally) {node : Node} {encounter : Encounter}
    (hkind : encounter.kind = node.kind) (hstops : encounter.stops policy = false)
    (hattempted : next.attempted = tally.attempted + 1) (hskipped : next.skipped = tally.skipped)
    (hfailed : next.failed = tally.failed + (encounter.failures policy context node).length)
    (hdivided : next.attempted = next.completed + next.failed) :
    Accounts policy context (steps ++ [.attempted node encounter]) next := by
  have hattempts : attempts (steps ++ [.attempted node encounter]) =
      attempts steps ++ [(node, encounter)] := by
    rw [attempts_append, attempts_attempted, attempts_nil]
  have hone := failures_add_successes hstops context node
  have hcalls := successes_attemptCalls policy context node encounter
  have hearlier := h.divided
  constructor
  case attempted =>
    rw [hattempts, List.length_append, List.length_singleton, ← h.attempted, hattempted]
  case taken =>
    rw [List.length_append, List.length_singleton, ← h.taken]
    omega
  case divided => exact hdivided
  case failed =>
    rw [hattempts, List.flatMap_append, List.flatMap_singleton, List.length_append, ← h.failed,
      hfailed]
  case completed =>
    have hcompleted := h.completed
    rw [hkind] at hone
    rw [hattempts, List.map_append, List.countP_append, List.flatMap_append,
      List.flatMap_singleton, Transcript.successes_append, hcalls, List.map_singleton,
      List.countP_singleton]
    simp only [decide_eq_true_eq]
    omega

/-- **One step keeps the account.** -/
theorem step {steps : List Step} {tally next : Log.Tally} (h : Accounts policy context steps tally)
    {step : Step} (hfits : step.Fits) (hnext : step.account policy tally = .ok next) :
    Accounts policy context (steps ++ [step]) next := by
  have hdivided := h.divided
  cases step with
  | skipped node reason =>
    obtain rfl : Cascade.skipped tally = next := Except.ok.inj hnext
    exact h.skip node reason
  | attempted node encounter =>
    rw [Step.account] at hnext
    cases hattempt : encounter.attempt policy with
    | completed =>
      rw [hattempt] at hnext
      obtain rfl : Cascade.completed tally = next := Except.ok.inj hnext
      obtain ⟨hstops, hfailure⟩ := Encounter.attempt_eq_completed_iff.mp hattempt
      refine h.attempt hfits hstops rfl rfl ?_ ?_
      · rw [Encounter.failures, hfailure]
        rfl
      · show tally.attempted + 1 = tally.completed + 1 + tally.failed
        omega
    | failed kind =>
      rw [hattempt] at hnext
      obtain rfl : Cascade.failed tally = next := Except.ok.inj hnext
      obtain ⟨hstops, hfailure⟩ := Encounter.attempt_eq_failed_iff.mp hattempt
      refine h.attempt hfits hstops rfl rfl ?_ ?_
      · rw [Encounter.failures, hfailure]
        rfl
      · show tally.attempted + 1 = tally.completed + (tally.failed + 1)
        omega
    | missing =>
      rw [hattempt] at hnext
      cases hnext

/-- **All steps of a run keep the account.** -/
theorem steps {earlier later : List Step} {tally total : Log.Tally}
    (h : Accounts policy context earlier tally) (hfits : ∀ step ∈ later, step.Fits)
    (htotal : later.foldlM (Step.account policy) tally = .ok total) :
    Accounts policy context (earlier ++ later) total := by
  induction later generalizing earlier tally with
  | nil =>
    obtain rfl : tally = total := Except.ok.inj htotal
    rwa [List.append_nil]
  | cons step rest ih =>
    obtain ⟨hstep, hrest⟩ := List.forall_mem_cons.mp hfits
    rw [List.foldlM_cons] at htotal
    cases hnext : step.account policy tally with
    | error fault =>
      rw [hnext] at htotal
      cases htotal
    | ok next =>
      rw [hnext] at htotal
      have hlonger := ih (h.step hstep hnext) hrest htotal
      rwa [List.append_assoc] at hlonger

end Accounts

/-! ## 3.  What is told of the whole cascade -/

/-- A reader of events about the whole cascade finds nothing in the steps. -/
theorem filterMap_steps_eq_nil {β : Type} {read : Log.Event → Option β}
    (hread : ∀ event, event.isOverall = false → read event = none) (reporting : Reporting)
    (policy : MissingBookingPolicy) (context : Context) (steps : List Step) :
    (steps.flatMap (Step.transcript reporting policy context)).filterMap
      (fun entry => entry.record?.bind fun record => read record.event) = [] := by
  rw [List.filterMap_eq_nil_iff]
  intro entry hentry
  obtain ⟨step, -, hentry⟩ := List.mem_flatMap.mp hentry
  cases entry with
  | exchange call reply => rfl
  | told record => exact hread _ (told_mem_step hentry).1

theorem announced?_eq_none {event : Log.Event} (h : event.isOverall = false) :
    event.announced? = none := by
  cases event with
  | starting => cases h
  | _ => rfl

theorem tally?_eq_none {event : Log.Event} (h : event.isOverall = false) :
    event.tally? = none := by
  cases event with
  | complete => cases h
  | _ => rfl

/-- The announced number of eligible descendants is their number. -/
theorem countP_assessDescendants (root : Node) (annotations : Annotations) :
    (root.assessDescendants annotations).countP (fun assessed => assessed.2 = .eligible) =
      (root.eligibleDescendants annotations).length := by
  rw [Node.eligibleDescendants, List.length_map, List.countP_eq_length_filter]

namespace Course

variable {reporting : Reporting} {tree : Tree} {context : Context}
  {policy : MissingBookingPolicy} {steps : List Step} {result : Except Fault Unit}
  {transcript : Transcript}

/-- Every run announces the numbers once. -/
theorem announced_eq (h : Course reporting tree context policy steps result transcript) :
    transcript.announced =
      [(tree.root.size, (tree.root.eligibleDescendants tree.blocking).length)] := by
  have hopening : (opening tree context).announced =
      [(tree.root.size, (tree.root.eligibleDescendants tree.blocking).length)] := by
    rw [← countP_assessDescendants, ← tree.nodeCount_eq_size]
    rfl
  have hsteps := fun taken => filterMap_steps_eq_nil (fun _ => announced?_eq_none) reporting policy
    context taken
  rw [Transcript.announced] at hopening ⊢
  cases h with
  | complete =>
    rw [List.filterMap_append, List.filterMap_append, hopening, hsteps]
    rfl
  | stopped =>
    rw [List.filterMap_append, List.filterMap_append, hopening, hsteps]
    rfl

/-- A run that succeeds tells one tally, which accounts for its steps, and these are as many as
there are proper descendants. -/
theorem tallies_eq (h : Course reporting tree context policy steps result transcript)
    (hsuccess : result = .ok ()) :
    ∃ tally, transcript.tallies = [tally] ∧ Accounts policy context steps tally ∧
      steps.length + 1 = tree.root.size := by
  cases h with
  | stopped => cases hsuccess
  | @complete taken tally hassessed hfits hquiet htally =>
    refine ⟨tally, ?_, Accounts.start.steps hfits htally, ?_⟩
    · rw [Transcript.tallies, List.filterMap_append, List.filterMap_append,
        filterMap_steps_eq_nil fun _ => tally?_eq_none]
      rfl
    · have hlength := congrArg List.length hassessed
      rw [Node.assessDescendants, List.length_map, List.length_map] at hlength
      rw [← tree.nodeCount_eq_size, Tree.nodeCount, hlength, Nat.add_comm]

end Course

/-! ## 4.  The numbers agree -/

/-- Every run announces, once, the number of nodes and the number of eligible descendants.  A run
that succeeds tells one tally.  In it as many are attempted as are eligible; these and the skipped
ones are all but the root; of those attempted the ones that failed are the ones reported, and the
others are the applications and the successes of withdrawals and cancellations. -/
theorem tally_agrees_with_trace (reporting : Reporting) (tree : Tree) (context : Context)
    (config : Config) (world : World σ) (state : σ) :
    let run := (withdrawDescendants reporting tree context config).run world state
    let eligible := tree.root.eligibleDescendants tree.blocking
    run.transcript.announced = [(tree.root.size, eligible.length)] ∧
      (run.result = .ok () → ∃ tally, run.transcript.tallies = [tally] ∧
        tally.attempted = eligible.length ∧
        tally.attempted + tally.skipped + 1 = tree.root.size ∧
        tally.attempted = tally.completed + tally.failed ∧
        tally.failed = run.transcript.reports.length ∧
        tally.completed = eligible.countP (fun node => node.kind = .application) +
          run.transcript.successes) := by
  intro run eligible
  have hcourse := course_run reporting tree context config world state
  refine ⟨hcourse.announced_eq, fun hsuccess => ?_⟩
  obtain ⟨tally, htallies, haccounts, hall⟩ := hcourse.tallies_eq hsuccess
  have heligible := hcourse.map_fst_attempts_of_ok hsuccess
  refine ⟨tally, htallies, ?_, ?_, haccounts.divided, ?_, ?_⟩
  · rw [haccounts.attempted, ← List.length_map Prod.fst, heligible]
  · rw [haccounts.taken, hall]
  · rw [haccounts.failed, hcourse.reports_eq]
  · rw [haccounts.completed, heligible, ← hcourse.exchanges_eq, Transcript.successes_exchanges]

end Cascade
end WithdrawalCascade
