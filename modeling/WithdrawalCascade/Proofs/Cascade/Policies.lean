import WithdrawalCascade.Proofs.Cascade.MissingBooking

/-!
# The two policies

The policy over bookings that do not exist is asked in one place, after a look-up that found
nothing.  Let one world answer two cascades over the same tree, one under each policy.  Up to the
first booking that does not exist the two cannot be told apart: the same calls get the same answers,
the same failures are reported, and the world is in the same state.  There `abort` ends, and `skip`
reports the booking and goes on.

`record_abort` proves this of the steps, by induction on the descendants that are still to be taken;
`abort_cuts_skip` reads the calls off the steps.
-/

namespace WithdrawalCascade
namespace Cascade

variable {σ : Type}

/-! ## 1.  Encounters under the two policies -/

/-- Unless a booking does not exist, the policy makes no difference to an encounter. -/
theorem Encounter.attempt_skip_eq {encounter : Encounter} (h : encounter.stops .abort = false) :
    encounter.attempt .skip = encounter.attempt .abort := by
  cases encounter with
  | absent => cases h
  | _ => rfl

theorem attemptCalls_skip_eq {context : Context} {node : Node} {encounter : Encounter}
    (h : encounter.stops .abort = false) :
    attemptCalls .skip context (node, encounter) = attemptCalls .abort context (node, encounter) := by
  cases encounter with
  | absent => cases h
  | _ => rfl

/-! ## 2.  Steps under the two policies -/

/-- The steps of `abort` are those of `skip`, cut after the first booking that does not exist. -/
inductive Cut : List Step → List Step → Prop where
  | done : Cut [] []
  | keep {step : Step} {skip abort : List Step} : step.stops .abort = false → Cut skip abort →
      Cut (step :: skip) (step :: abort)
  | stop {node : Node} {later : List Step} :
      Cut (.attempted node .absent :: later) [.attempted node .absent]

/-- **The policy to stop cuts.**  Two runs of the same world under the two policies take the same
steps up to the first booking that does not exist, if there is one. -/
theorem record_abort (world : World σ) (reporting : Reporting) (context : Context)
    (assessed : List (Node × Eligibility)) (state : σ) :
    Cut ((record reporting .skip context assessed).run world state).result
      ((record reporting .abort context assessed).run world state).result := by
  induction assessed generalizing state with
  | nil => exact .done
  | cons first rest ih =>
    obtain ⟨node, eligibility⟩ := first
    cases eligibility with
    | eligible =>
      simp only [record, Dialogue.run_andThen, Dialogue.run_event, Encounter.run_alarm]
      generalize (consult context node).run world state = met
      cases hstops : met.result.stops .abort with
      | true =>
        obtain ⟨habsent, -⟩ := Encounter.stops_eq_true_iff.mp hstops
        have hskip : Encounter.attempt .skip .absent = .failed .notFound := rfl
        have habort : Encounter.attempt .abort .absent = .missing := rfl
        simp only [habsent, hskip, habort, Dialogue.run_andThen, Dialogue.run_pure]
        exact .stop
      | false =>
        -- the same encounter comes to the same under both policies
        rw [Encounter.attempt_skip_eq hstops]
        cases hattempt : met.result.attempt .abort with
        | completed =>
          simp only [Dialogue.run_andThen, Dialogue.run_pure]
          exact .keep hstops (ih _)
        | failed kind =>
          simp only [Dialogue.run_andThen, Dialogue.run_pure]
          exact .keep hstops (ih _)
        | missing =>
          rw [Encounter.attempt_eq_missing_iff.mp hattempt] at hstops
          cases hstops
    | notWithdrawable =>
      simp only [record, Dialogue.run_andThen, Dialogue.run_event, Dialogue.run_pure]
      exact .keep rfl (ih _)
    | blocked =>
      simp only [record, Dialogue.run_andThen, Dialogue.run_event, Dialogue.run_pure]
      exact .keep rfl (ih _)

/-- Either nothing was cut off, or everything after a booking that does not exist. -/
theorem Cut.eq_or_append {skip abort : List Step} (h : Cut skip abort) :
    ((∀ step ∈ skip, step.stops .abort = false) ∧ abort = skip) ∨
      ∃ earlier node later, (∀ step ∈ earlier, step.stops .abort = false) ∧
        skip = earlier ++ .attempted node .absent :: later ∧
        abort = earlier ++ [.attempted node .absent] := by
  induction h with
  | done => exact Or.inl ⟨by simp, rfl⟩
  | @keep step skip abort hstep _ ih =>
    rcases ih with ⟨hquiet, hequal⟩ | ⟨earlier, node, later, hquiet, hskip, habort⟩
    · exact Or.inl ⟨List.forall_mem_cons.mpr ⟨hstep, hquiet⟩, by rw [hequal]⟩
    · refine Or.inr ⟨step :: earlier, node, later, List.forall_mem_cons.mpr ⟨hstep, hquiet⟩, ?_, ?_⟩
      · rw [hskip, List.cons_append]
      · rw [habort, List.cons_append]
  | @stop node later => exact Or.inr ⟨[], node, later, by simp, rfl, rfl⟩

/-- Attempts that do not stop the cascade make the same calls under both policies. -/
theorem flatMap_attemptCalls_skip_eq {context : Context} {steps : List Step}
    (hquiet : ∀ step ∈ steps, step.stops .abort = false) :
    (attempts steps).flatMap (attemptCalls .skip context) =
      (attempts steps).flatMap (attemptCalls .abort context) := by
  refine List.flatMap_congr fun attempted hmem => ?_
  obtain ⟨node, encounter⟩ := attempted
  exact attemptCalls_skip_eq (hquiet _ (mem_attempts_iff.mp hmem))

/-- Attempts that do not stop the cascade find every booking. -/
theorem absent_notMem_attemptCalls {policy : MissingBookingPolicy} {context : Context}
    {steps : List Step} (hquiet : ∀ step ∈ steps, step.stops .abort = false) (id : EntityId) :
    .exchange (.findBooking id) (.ok none) ∉
      (attempts steps).flatMap (attemptCalls policy context) := by
  intro hmem
  obtain ⟨⟨node, encounter⟩, hattempt, hlookup⟩ := List.mem_flatMap.mp hmem
  obtain ⟨rfl, -⟩ := absent_mem_attemptCalls_iff.mp hlookup
  exact absent_notMem_of_quiet hquiet node (mem_attempts_iff.mp hattempt)

/-! ## 3.  Runs under the two policies -/

namespace Course

variable {reporting : Reporting} {tree : Tree} {context : Context}
  {policy : MissingBookingPolicy} {steps : List Step} {result : Except Fault Unit}
  {transcript : Transcript}

/-- A run in which no step stops the cascade succeeds. -/
theorem result_of_quiet (h : Course reporting tree context policy steps result transcript)
    (hquiet : ∀ step ∈ steps, step.stops .abort = false) : result = .ok () := by
  cases h with
  | complete => rfl
  | @stopped earlier node =>
    exact absurd (List.mem_append_right _ List.mem_cons_self) (absent_notMem_of_quiet hquiet node)

/-- Under the policy to go on every run succeeds. -/
theorem result_of_skip (h : Course reporting tree context .skip steps result transcript) :
    result = .ok () := by
  cases h with
  | complete => rfl
  | stopped hassessed hfits hquiet hkind hpolicy => cases hpolicy

/-- Under the policy to stop, a run whose last step finds no booking fails over that booking. -/
theorem result_of_absent {earlier : List Step} {node : Node}
    (h : Course reporting tree context .abort (earlier ++ [.attempted node .absent]) result
      transcript) :
    result = .error (.entityNotFound "booking" node.id) := by
  generalize htaken : earlier ++ [Step.attempted node .absent] = taken at h
  cases h with
  | complete hassessed hfits hquiet htally =>
    rw [← htaken] at hquiet
    exact absurd (List.mem_append_right _ List.mem_cons_self) (absent_notMem_of_quiet hquiet node)
  | stopped =>
    obtain ⟨-, hlast⟩ := List.append_inj' htaken rfl
    cases hlast
    rfl

end Course

/-- Under the policy to go on a run succeeds and looks up every eligible booking.  What the run of
the same world under the policy to stop does outside the log is a first part of what it does there.
The two agree where no look-up finds nothing.  Where one does, the run that stops ends with the
first such look-up, and the other goes on with the report of that booking. -/
theorem abort_cuts_skip (reporting : Reporting) (tree : Tree) (context : Context)
    (world : World σ) (state : σ) :
    let skip := (withdrawDescendants reporting tree context ⟨.skip⟩).run world state
    let abort := (withdrawDescendants reporting tree context ⟨.abort⟩).run world state
    skip.result = .ok () ∧
      (∀ node ∈ tree.root.eligibleDescendants tree.blocking, node.kind = .booking →
        ∃ reply, .exchange (.findBooking node.id) reply ∈ skip.transcript.exchanges) ∧
      abort.transcript.exchanges <+: skip.transcript.exchanges ∧
      (((∀ id, .exchange (.findBooking id) (.ok none) ∉ skip.transcript.exchanges) ∧
          abort.transcript.exchanges = skip.transcript.exchanges ∧ abort.result = skip.result) ∨
        ∃ node ∈ tree.root.eligibleDescendants tree.blocking, ∃ before after,
          node.kind = .booking ∧
          (∀ id, .exchange (.findBooking id) (.ok none) ∉ before) ∧
          skip.transcript.exchanges = before ++ .exchange (.findBooking node.id) (.ok none) ::
            .exchange (.report ⟨node.kind, node.id, context.triggeringKind, context.triggeringId,
              .notFound⟩) () :: after ∧
          abort.transcript.exchanges = before ++ [.exchange (.findBooking node.id) (.ok none)] ∧
          abort.result = .error (.entityNotFound "booking" node.id)) := by
  intro skip abort
  have hskip := course_run reporting tree context ⟨.skip⟩ world state
  have habort := course_run reporting tree context ⟨.abort⟩ world state
  refine ⟨hskip.result_of_skip, ?_, ?_⟩
  · intro node hnode hbooking
    obtain ⟨reply, hlookup, -⟩ := (hskip.of_ok hskip.result_of_skip).2 node hnode hbooking
    exact ⟨reply, exchange_mem_exchanges_iff.mpr hlookup⟩
  have hcut := (record_abort world reporting context
    (tree.root.assessDescendants tree.blocking) state).eq_or_append
  rcases hcut with ⟨hquiet, hequal⟩ | ⟨earlier, node, later, hquiet, hlater, hlast⟩
  · rw [show steps reporting tree context ⟨.abort⟩ world state = _ from hequal] at habort
    have htrace : abort.transcript.exchanges = skip.transcript.exchanges :=
      habort.exchanges_eq.trans
        ((flatMap_attemptCalls_skip_eq hquiet).symm.trans hskip.exchanges_eq.symm)
    refine ⟨htrace ▸ List.prefix_refl _, Or.inl ⟨?_, htrace, ?_⟩⟩
    · intro id
      rw [hskip.exchanges_eq]
      exact absent_notMem_attemptCalls hquiet id
    · exact (habort.result_of_quiet hquiet).trans hskip.result_of_skip.symm
  · rw [show steps reporting tree context ⟨.skip⟩ world state = _ from hlater] at hskip
    rw [show steps reporting tree context ⟨.abort⟩ world state = _ from hlast] at habort
    -- both traces begin with the calls of the attempts before the missing booking
    have hskipTrace : skip.transcript.exchanges =
        (attempts earlier).flatMap (attemptCalls .abort context) ++
          .exchange (.findBooking node.id) (.ok none) :: .exchange (.report ⟨node.kind, node.id,
            context.triggeringKind, context.triggeringId, .notFound⟩) () ::
          (attempts later).flatMap (attemptCalls .skip context) := by
      rw [hskip.exchanges_eq, attempts_append, List.flatMap_append,
        flatMap_attemptCalls_skip_eq hquiet]
      rfl
    have habortTrace : abort.transcript.exchanges =
        (attempts earlier).flatMap (attemptCalls .abort context) ++
          [.exchange (.findBooking node.id) (.ok none)] := by
      rw [habort.exchanges_eq, attempts_append, List.flatMap_append]
      rfl
    have hattempt : (node, Encounter.absent) ∈ attempts (earlier ++ [.attempted node .absent]) :=
      mem_attempts_iff.mpr (List.mem_append_right _ List.mem_cons_self)
    refine ⟨?_, Or.inr ⟨node, ?_, _, _, ?_, absent_notMem_attemptCalls hquiet, hskipTrace,
      habortTrace, habort.result_of_absent⟩⟩
    · rw [hskipTrace, habortTrace]
      exact ⟨_, List.append_assoc _ _ _⟩
    · exact habort.map_fst_attempts_isPrefix.subset (List.mem_map_of_mem hattempt)
    · exact (habort.kind_eq hattempt).symm

end Cascade
end WithdrawalCascade
