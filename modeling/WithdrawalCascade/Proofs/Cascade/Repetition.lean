import WithdrawalCascade.Proofs.Cascade.Handover
import WithdrawalCascade.Proofs.StandIn.Keeping

/-!
# Cascades that are run again

A cascade leaves nothing behind that the next one would notice: it does not mark what it withdrew,
and it asks nobody whether it has been run before.  If the collaborators do not keep track either,
so that they are steady, every run over one tree is like the first, and so many runs in a row make
so many copies of what the first one does.  Only the clock goes on in between.

A dialogue that is played again and again is played from whatever state the world has come to, so
what is said of all plays is said first of a play from any state within reach (`result_times`,
`transcript_times`).  That each cancellation bears the reading made for it holds across runs because
it holds within each of them (`orderly_times`).
-/

namespace WithdrawalCascade

/-! ## 1.  Dialogues that are played again -/

namespace Dialogue

variable {σ α β : Type}

/-- To play a dialogue so many times is to play it once and then the other times. -/
theorem run_times_succ (world : World σ) (dialogue : Dialogue α) (count : Nat) (state : σ) :
    (times (count + 1) dialogue).run world state =
      let first := dialogue.run world state
      let others := (times count dialogue).run world first.state
      ⟨first.result :: others.result, first.transcript ++ others.transcript, others.state⟩ := by
  simp only [times, run_andThen, run_pure, List.append_nil]

variable {world : World σ} {start state : σ} {dialogue : Dialogue α}

/-- If every play has the same result, so many plays have it so many times. -/
theorem result_times {result : α}
    (h : ∀ reached, world.Reaches start reached → (dialogue.run world reached).result = result)
    (hstate : world.Reaches start state) (count : Nat) :
    ((times count dialogue).run world state).result = List.replicate count result := by
  induction count generalizing state with
  | zero => rfl
  | succ count ih =>
    rw [run_times_succ, List.replicate_succ]
    exact congrArg₂ List.cons (h state hstate) (ih (hstate.run dialogue))

/-- If a reader that takes transcripts piece by piece reads the same from every play, it reads it so
many times from so many plays. -/
theorem transcript_times (read : Transcript → List β) {seen : List β} (hnil : read [] = [])
    (happend : ∀ front back, read (front ++ back) = read front ++ read back)
    (h : ∀ reached, world.Reaches start reached →
      read (dialogue.run world reached).transcript = seen)
    (hstate : world.Reaches start state) (count : Nat) :
    read ((times count dialogue).run world state).transcript =
      (List.replicate count seen).flatten := by
  induction count generalizing state with
  | zero => exact hnil
  | succ count ih =>
    rw [run_times_succ, List.replicate_succ, List.flatten_cons]
    exact (happend _ _).trans (congrArg₂ List.append (h state hstate) (ih (hstate.run dialogue)))

end Dialogue

namespace Cascade

variable {σ : Type}

/-- Cascades in a row are orderly. -/
theorem orderly_times (reporting : Reporting) (tree : Tree) (context : Context) (config : Config)
    (world : World σ) (count : Nat) (state : σ) :
    Orderly context ((Dialogue.times count
      (withdrawDescendants reporting tree context config)).run world state).transcript := by
  induction count generalizing state with
  | zero => exact .nil
  | succ count ih =>
    rw [Dialogue.run_times_succ]
    exact (course_run reporting tree context config world state).orderly.append (ih _)

/-! ## 2.  Steady collaborators -/

section

variable {world : World σ} {state : σ} (hsteady : world.Steady state) (reporting : Reporting)
  (tree : Tree) (context : Context) (config : Config) (count : Nat)

include hsteady

/-- Cascades in a row make copies of the calls of one, but for the times. -/
theorem calls_times_of_steady (time : Instant) :
    let cascade := withdrawDescendants reporting tree context config
    ((Dialogue.times count cascade).run world state).transcript.calls.map (Call.dated time) =
      (List.replicate count
        ((cascade.run world state).transcript.calls.map (Call.dated time))).flatten := by
  intro cascade
  refine Dialogue.transcript_times (fun transcript => transcript.calls.map (Call.dated time)) rfl
    ?_ ?_ .start count
  · intro front back
    rw [Transcript.calls_append, List.map_append]
  · intro reached hreached
    exact (calls_of_steady hsteady hreached reporting tree context config time).trans
      (calls_of_steady hsteady .start reporting tree context config time).symm

/-- They make copies of the reports of one, which bear no time. -/
theorem reports_times_of_steady :
    let cascade := withdrawDescendants reporting tree context config
    ((Dialogue.times count cascade).run world state).transcript.reports =
      (List.replicate count (cascade.run world state).transcript.reports).flatten := by
  intro cascade
  have hreports : ∀ transcript : Transcript, transcript.reports =
      (transcript.calls.map (Call.dated ⟨0⟩)).filterMap Call.report? := by
    intro transcript
    rw [Transcript.reports_eq_calls, List.filterMap_map]
    exact List.filterMap_congr fun call _ => (Call.report?_dated ⟨0⟩ call).symm
  rw [hreports, calls_times_of_steady hsteady reporting tree context config count ⟨0⟩,
    List.filterMap_flatten, List.map_replicate, ← hreports]

/-- With a clock that stands still they make copies of the calls altogether. -/
theorem calls_times_of_still_clock {time : Instant} (hclock : world.Tells state time) :
    let cascade := withdrawDescendants reporting tree context config
    ((Dialogue.times count cascade).run world state).transcript.calls =
      (List.replicate count (cascade.run world state).transcript.calls).flatten := by
  intro cascade
  have hall := (orderly_times reporting tree context config world count state).map_dated_calls
    (eq_of_mem_readings hclock .start _)
  have honce := (course_run reporting tree context config world state).orderly.map_dated_calls
    (eq_of_mem_readings hclock .start _)
  rw [← hall, calls_times_of_steady hsteady reporting tree context config count time, honce]

end

/-! ## 3.  Stand-ins -/

/-- What stand-ins keep of cascades in a row are copies of what they keep of one. -/
theorem kept_times (reporting : Reporting) (tree : Tree) (context : Context) (config : Config)
    (count : Nat) (ensemble : StandIn.Ensemble) :
    let cascade := withdrawDescendants reporting tree context config
    let once := cascade.run StandIn.Ensemble.world ensemble
    let added := once.state.kept.since ensemble.kept
    once.state.kept = ensemble.kept ++ added ∧
      ((Dialogue.times count cascade).run StandIn.Ensemble.world ensemble).state.kept =
        ensemble.kept ++ added.copies count := by
  intro cascade once added
  have honce := StandIn.Ensemble.kept_run cascade ensemble
  have hall := StandIn.Ensemble.kept_run (Dialogue.times count cascade) ensemble
  rw [calls_times_of_still_clock ensemble.steady reporting tree context config count
    ensemble.tells, StandIn.Ensemble.Kept.ofCalls_replicate] at hall
  have hadded : added = StandIn.Ensemble.Kept.ofCalls ensemble.bookingsReachable
      once.transcript.calls := by
    show once.state.kept.since ensemble.kept = _
    rw [honce, StandIn.Ensemble.Kept.since_append]
  rw [← hadded] at honce hall
  exact ⟨honce, hall⟩

/-! ## 4.  Runs in a row -/

/-- Run so many times over one tree, among collaborators that answer a call by its arguments, the
cascade has the same result every time and makes so many copies of the calls and the reports of one
run, one after the other.  The copies differ in the times only, and all cancellations together bear
all readings of the clock one by one.  Stand-ins are such collaborators, and what they keep of so
many runs are so many copies of what they keep of one. -/
theorem cascades_in_a_row (reporting : Reporting) (tree : Tree) (context : Context)
    (config : Config) {world : World σ} {state : σ} (hsteady : world.Steady state) (count : Nat) :
    let cascade := withdrawDescendants reporting tree context config
    let once := cascade.run world state
    let all := (Dialogue.times count cascade).run world state
    all.result = List.replicate count once.result ∧
      (∀ time, all.transcript.calls.map (Call.dated time) =
        (List.replicate count (once.transcript.calls.map (Call.dated time))).flatten) ∧
      all.transcript.reports = (List.replicate count once.transcript.reports).flatten ∧
      all.transcript.cancellations.map Cancellation.cancelledAt = all.transcript.readings ∧
      ∀ ensemble : StandIn.Ensemble, StandIn.Ensemble.world.Steady ensemble ∧
        let once := cascade.run StandIn.Ensemble.world ensemble
        let all := (Dialogue.times count cascade).run StandIn.Ensemble.world ensemble
        let added := once.state.kept.since ensemble.kept
        once.state.kept = ensemble.kept ++ added ∧
          all.state.kept = ensemble.kept ++ added.copies count ∧
          (ensemble.kept = {} → all.state.kept = once.state.kept.copies count) := by
  intro cascade once all
  refine ⟨?_, calls_times_of_steady hsteady reporting tree context config count,
    reports_times_of_steady hsteady reporting tree context config count, ?_, ?_⟩
  · refine Dialogue.result_times (fun reached hreached => ?_) .start count
    exact (result_of_steady hsteady hreached reporting tree context config ⟨0⟩).trans
      (result_of_steady hsteady .start reporting tree context config ⟨0⟩).symm
  · exact (orderly_times reporting tree context config world count state).cancelledAt_eq_readings
  · intro ensemble
    refine ⟨ensemble.steady, ?_⟩
    intro once all added
    obtain ⟨honce, hall⟩ : once.state.kept = ensemble.kept ++ added ∧
        all.state.kept = ensemble.kept ++ added.copies count :=
      kept_times reporting tree context config count ensemble
    refine ⟨honce, hall, fun hempty => ?_⟩
    -- where nothing had been kept, all that is kept has been added
    rw [hempty, StandIn.Ensemble.Kept.empty_append] at honce hall
    rw [hall, honce]

/-- Three rehearsals among stand-ins that know no booking: each stops at the same one, and what is
kept in the end has been kept three times. -/
theorem three_rehearsals :
    let cascade := withdrawDescendants .logged rehearsalTree
      (Sample.systemContext rehearsalTree.root) {}
    let once := cascade.run StandIn.Ensemble.world {}
    let all := (Dialogue.times 3 cascade).run StandIn.Ensemble.world {}
    StandIn.Ensemble.world.Steady {} ∧
      all.result = List.replicate 3 (.error (.entityNotFound "booking" (EntityId.ofNat 3))) ∧
      all.transcript.calls.map (Call.dated ⟨0⟩) =
        (List.replicate 3 (once.transcript.calls.map (Call.dated ⟨0⟩))).flatten ∧
      all.state.kept.lookups = List.replicate 3 (EntityId.ofNat 3) := by
  intro cascade once all
  obtain ⟨hresult, hcalls, -, -, hkept⟩ := cascades_in_a_row .logged rehearsalTree
    (Sample.systemContext rehearsalTree.root) {} (StandIn.Ensemble.steady {}) 3
  have honce : once.result = .error (.entityNotFound "booking" (EntityId.ofNat 3)) ∧
      once.state.kept.lookups = [EntityId.ofNat 3] := by
    simp only [once, cascade, withdrawDescendants, Node.assessDescendants,
      Node.descendants_eq_preorder]
    exact ⟨rfl, rfl⟩
  refine ⟨StandIn.Ensemble.steady {}, ?_, hcalls ⟨0⟩, ?_⟩
  · rw [← honce.1]
    exact hresult
  · have hcopies := congrArg StandIn.Ensemble.Kept.lookups ((hkept {}).2.2.2 rfl)
    refine hcopies.trans ?_
    show (List.replicate 3 once.state.kept.lookups).flatten = _
    rw [honce.2]
    rfl

end Cascade
end WithdrawalCascade
