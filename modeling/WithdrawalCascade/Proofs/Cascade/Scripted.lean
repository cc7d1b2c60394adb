import WithdrawalCascade.Proofs.Cascade.Cancellation
import WithdrawalCascade.Proofs.Reach
import WithdrawalCascade.StandIn.Script

/-!
# Cascades that are answered by a script

Let the collaborators answer every call by what it is about, as a script says, whatever was called
before (`World.Follows`).  Of the clock nothing is asked.  Then a cascade can be foreseen but for
the times that it reads: put one and the same time for all of them (`Encounter.dated`), and its
attempts are those of `foreseen`, which knows of no world and no state (`attempts_of_follows`).

From the attempts come the result (`Course.result_eq_verdict`) and the calls
(`map_dated_attemptCalls`).
-/

namespace WithdrawalCascade

/-- The entry with `time` for a time that was read from the clock, also where it was written into a
cancellation. -/
def Entry.dated (time : Instant) : Entry → Entry
  | .exchange .now _ => .exchange .now time
  | .exchange (.cancelBooking booking cancellation context) answer =>
    .exchange (.cancelBooking booking { cancellation with cancelledAt := time } context) answer
  | entry => entry

/-- In every state the world answers the calls of a cascade in `context` as the script says.  The
clock of the script is not meant: a world that follows a script has a clock of its own. -/
structure World.Follows {σ : Type} (world : World σ) (context : Context) (script : StandIn.Script) :
    Prop where
  requests (id : EntityId) (state : σ) :
    (world.answer (.withdrawPlacementRequest (Cascade.withdrawal id context)) state).1 =
      script.requests id
  applications (id : EntityId) (state : σ) :
    (world.answer (.withdrawPlacementApplication (Cascade.withdrawal id context)) state).1 =
      script.applications id
  finds (id : EntityId) (state : σ) : (world.answer (.findBooking id) state).1 = script.finds id
  cancels (booking : Booking) (now : Instant) (state : σ) :
    (world.answer (.cancelBooking booking (Cascade.cancellation now context) context) state).1 =
      script.cancels booking

/-- The world of a script follows it. -/
theorem StandIn.Script.follows_world (script : StandIn.Script) (context : Context) :
    script.world.Follows context script :=
  ⟨fun _ _ => rfl, fun _ _ => rfl, fun _ _ => rfl, fun _ _ _ => rfl⟩

namespace Cascade

variable {σ : Type}

/-! ## 1.  Encounters -/

/-- The encounter with `time` for the time that was read. -/
def Encounter.dated (time : Instant) : Encounter → Encounter
  | .found booking _ answer => .found booking time answer
  | encounter => encounter

@[simp] theorem Encounter.stops_dated (time : Instant) (policy : MissingBookingPolicy)
    (encounter : Encounter) : (encounter.dated time).stops policy = encounter.stops policy := by
  cases encounter <;> rfl

/-- The time that was read makes no difference to the calls but for itself. -/
theorem map_dated_attemptCalls (time : Instant) (policy : MissingBookingPolicy) (context : Context)
    (node : Node) (encounter : Encounter) :
    (attemptCalls policy context (node, encounter)).map (Entry.dated time) =
      attemptCalls policy context (node, encounter.dated time) := by
  have hreports : ∀ failures : List Failure,
      (failures.map fun failure => Entry.exchange (.report failure) ()).map (Entry.dated time) =
        failures.map fun failure => .exchange (.report failure) () := by
    intro failures
    rw [List.map_map]
    rfl
  rw [attemptCalls, List.map_append, hreports, attemptCalls]
  cases encounter <;> rfl

/-- The encounter that a script leads to after the reply to a look-up. -/
def lookedUp (script : StandIn.Script) (time : Instant) :
    Except Fault (Option Booking) → Encounter
  | .error fault => .unsearched fault
  | .ok none => .absent
  | .ok (some booking) => .found booking time (script.cancels booking)

/-- The encounter that a script leads to, if the clock reads `time`. -/
def encounterOf (script : StandIn.Script) (time : Instant) (node : Node) : Encounter :=
  match node.kind with
  | .application => .idle
  | .placementRequest => .request (script.requests node.id)
  | .placementApplication => .furtherRequest (script.applications node.id)
  | .booking => lookedUp script time (script.finds node.id)

theorem dated_settle {world : World σ} {context : Context} {script : StandIn.Script}
    (hfollows : world.Follows context script) (time : Instant)
    (reply : Except Fault (Option Booking)) (state : σ) :
    ((settle context reply).run world state).result.dated time = lookedUp script time reply := by
  rcases reply with fault | booking?
  · rfl
  · cases booking? with
    | none => rfl
    | some booking => exact congrArg (Encounter.found booking time) (hfollows.cancels booking _ _)

/-- In a world that follows a script, the encounter is the one the script leads to. -/
theorem dated_consult {world : World σ} {context : Context} {script : StandIn.Script}
    (hfollows : world.Follows context script) (time : Instant) (node : Node) (state : σ) :
    ((consult context node).run world state).result.dated time = encounterOf script time node := by
  obtain ⟨kind, id, status, children⟩ := node
  cases kind with
  | application => rfl
  | placementRequest => exact congrArg Encounter.request (hfollows.requests id state)
  | placementApplication => exact congrArg Encounter.furtherRequest (hfollows.applications id state)
  | booking =>
    have hsettled := dated_settle hfollows time (world.answer (.findBooking id) state).1
      (world.answer (.findBooking id) state).2
    exact hsettled.trans (congrArg (lookedUp script time) (hfollows.finds id state))

/-! ## 2.  Attempts -/

/-- The attempts that a cascade makes on eligible descendants if the encounter with each of them is
the `expected` one. -/
def foreseen (policy : MissingBookingPolicy) (expected : Node → Encounter) :
    List Node → List (Node × Encounter)
  | [] => []
  | node :: rest =>
    (node, expected node) ::
      if (expected node).stops policy then [] else foreseen policy expected rest

/-- What holds of every encounter with a node holds of the attempts of a run. -/
theorem forall_attempts_record {world : World σ} {context : Context} {start : σ}
    (property : Node → Encounter → Prop)
    (hconsult : ∀ node reached, world.Reaches start reached →
      property node ((consult context node).run world reached).result)
    (reporting : Reporting) (policy : MissingBookingPolicy) (assessed : List (Node × Eligibility))
    {state : σ} (hstate : world.Reaches start state) :
    ∀ attempt ∈ attempts ((record reporting policy context assessed).run world state).result,
      property attempt.1 attempt.2 := by
  induction assessed generalizing state with
  | nil => exact fun attempt hattempt => absurd hattempt List.not_mem_nil
  | cons first rest ih =>
    obtain ⟨node, eligibility⟩ := first
    cases eligibility with
    | eligible =>
      have hmet := hconsult node state hstate
      have hreached := hstate.run (consult context node)
      simp only [record, Dialogue.run_andThen, Dialogue.run_event, Encounter.run_alarm]
      generalize (consult context node).run world state = met at hmet hreached ⊢
      cases hattempt : met.result.attempt policy with
      | completed =>
        simp only [Dialogue.run_andThen, Dialogue.run_pure, attempts_attempted]
        exact List.forall_mem_cons.mpr ⟨hmet, ih hreached⟩
      | failed kind =>
        simp only [Dialogue.run_andThen, Dialogue.run_pure, attempts_attempted]
        exact List.forall_mem_cons.mpr ⟨hmet, ih (hreached.run _)⟩
      | missing =>
        exact List.forall_mem_singleton.mpr hmet
    | notWithdrawable =>
      simp only [record, Dialogue.run_andThen, Dialogue.run_event, Dialogue.run_pure]
      exact ih hstate
    | blocked =>
      simp only [record, Dialogue.run_andThen, Dialogue.run_event, Dialogue.run_pure]
      exact ih hstate

/-- Steps whose encounters, seen in some `view`, are the expected ones make the foreseen attempts,
so long as one can still see which of them end the cascade. -/
theorem Proceeds.map_attempts {policy : MissingBookingPolicy} {view : Encounter → Encounter}
    (hview : ∀ encounter, (view encounter).stops policy = encounter.stops policy)
    {assessed : List (Node × Eligibility)} {steps : List Step} (h : Proceeds policy assessed steps)
    {expected : Node → Encounter}
    (hexpected : ∀ attempt ∈ attempts steps, view attempt.2 = expected attempt.1) :
    (attempts steps).map (fun attempt => (attempt.1, view attempt.2)) =
      foreseen policy expected
        ((assessed.filter fun assessed => assessed.2 = .eligible).map (·.1)) := by
  induction h with
  | done => rfl
  | next step hfits hstep _ ih =>
    cases step with
    | skipped node reason =>
      have hreason : reason ≠ .eligible := hfits
      rw [attempts_skipped] at hexpected ⊢
      simpa [Step.assessed, hreason] using ih hexpected
    | attempted node encounter =>
      rw [attempts_attempted] at hexpected ⊢
      obtain ⟨hmet, hrest⟩ := List.forall_mem_cons.mp hexpected
      have hgoes : (expected node).stops policy = false := by
        rw [← hmet, hview]
        exact hstep
      simp [Step.assessed, foreseen, hgoes, hmet, ih hrest]
  | stop node hkind hstops =>
    rw [attempts_attempted] at hexpected ⊢
    have hmet := (List.forall_mem_cons.mp hexpected).1
    have hends : (expected node).stops policy = true := by
      rw [← hmet, hview]
      exact hstops
    simp [foreseen, hends, hmet]

/-- **A cascade can be foreseen** if every encounter, seen in some `view`, is the expected one
wherever the world has come to, and if one still sees which encounters end the cascade. -/
theorem map_attempts_steps {world : World σ} {context : Context} {config : Config}
    {start state : σ} {view : Encounter → Encounter} {expected : Node → Encounter}
    (hview : ∀ encounter,
      (view encounter).stops config.onMissingBooking = encounter.stops config.onMissingBooking)
    (hexpected : ∀ node reached, world.Reaches start reached →
      view ((consult context node).run world reached).result = expected node)
    (hstate : world.Reaches start state) (reporting : Reporting) (tree : Tree) :
    (attempts (steps reporting tree context config world state)).map
        (fun attempt => (attempt.1, view attempt.2)) =
      foreseen config.onMissingBooking expected
        (tree.root.eligibleDescendants tree.blocking) := by
  have hmet := forall_attempts_record (fun node encounter => view encounter = expected node)
    hexpected reporting config.onMissingBooking (tree.root.assessDescendants tree.blocking) hstate
  exact (proceeds_record world reporting config.onMissingBooking context _ state).map_attempts
    hview hmet

/-- **A scripted cascade can be foreseen**, but for the times. -/
theorem attempts_of_follows {world : World σ} {context : Context} {script : StandIn.Script}
    (hfollows : world.Follows context script) (time : Instant) (reporting : Reporting) (tree : Tree)
    (config : Config) (state : σ) :
    (attempts (steps reporting tree context config world state)).map
        (fun attempt => (attempt.1, attempt.2.dated time)) =
      foreseen config.onMissingBooking (encounterOf script time)
        (tree.root.eligibleDescendants tree.blocking) :=
  map_attempts_steps (Encounter.stops_dated time config.onMissingBooking)
    (fun node reached _ => dated_consult hfollows time node reached) .start reporting tree

/-! ## 3.  Results -/

/-- What attempts come to: the fault of the first one that ends the cascade. -/
def verdict (policy : MissingBookingPolicy) (attempted : List (Node × Encounter)) :
    Except Fault Unit :=
  match attempted.find? fun attempt => attempt.2.stops policy with
  | none => .ok ()
  | some (node, _) => .error (.entityNotFound "booking" node.id)

/-- Seen in a `view` in which one still sees which attempts end the cascade, attempts come to the
same. -/
theorem verdict_map {policy : MissingBookingPolicy} {view : Encounter → Encounter}
    (hview : ∀ encounter, (view encounter).stops policy = encounter.stops policy)
    (attempted : List (Node × Encounter)) :
    verdict policy (attempted.map fun attempt => (attempt.1, view attempt.2)) =
      verdict policy attempted := by
  rw [verdict, verdict, List.find?_map]
  simp only [Function.comp_def, hview]
  cases attempted.find? fun attempt => attempt.2.stops policy <;> rfl

/-- No attempt is found to end the cascade where none does. -/
theorem find?_stops_eq_none {policy : MissingBookingPolicy} {attempted : List (Node × Encounter)}
    (hquiet : ∀ attempt ∈ attempted, attempt.2.stops policy = false) :
    (attempted.find? fun attempt => attempt.2.stops policy) = none := by
  rw [List.find?_eq_none]
  intro attempt hattempt
  rw [hquiet attempt hattempt]
  exact Bool.false_ne_true

namespace Course

variable {reporting : Reporting} {tree : Tree} {context : Context}
  {policy : MissingBookingPolicy} {steps : List Step} {result : Except Fault Unit}
  {transcript : Transcript}

/-- **The result of a run is the verdict on its attempts.** -/
theorem result_eq_verdict (h : Course reporting tree context policy steps result transcript) :
    result = verdict policy (attempts steps) := by
  have hnone : ∀ taken : List Step, (∀ step ∈ taken, step.stops policy = false) →
      (attempts taken).find? (fun attempt => attempt.2.stops policy) = none :=
    fun taken hquiet => find?_stops_eq_none fun attempt hattempt =>
      hquiet _ (mem_attempts_iff.mp hattempt)
  cases h with
  | complete hassessed hfits hquiet htally => rw [verdict, hnone _ hquiet]
  | stopped hassessed hfits hquiet hkind hpolicy =>
    rw [verdict, attempts_append, List.find?_append, hnone _ hquiet, hpolicy]
    rfl

/-- Where the clock told one and the same time at every reading, the times are known as well. -/
theorem map_dated_attempts (h : Course reporting tree context policy steps result transcript)
    {time : Instant} (htold : ∀ now ∈ transcript.readings, now = time) :
    (attempts steps).map (fun attempt => (attempt.1, attempt.2.dated time)) = attempts steps := by
  have hdated : ∀ attempt ∈ attempts steps, attempt.2.dated time = attempt.2 := by
    rintro ⟨node, encounter⟩ hattempt
    cases encounter with
    | found booking now answer =>
      have hcall : .exchange .now now ∈ transcript.exchanges := by
        rw [h.exchanges_eq]
        refine List.mem_flatMap.mpr ⟨_, hattempt, List.mem_append_left _ ?_⟩
        exact List.mem_cons_of_mem _ List.mem_cons_self
      have hreading : now ∈ transcript.readings :=
        List.mem_filterMap.mpr ⟨_, (List.mem_filter.mp hcall).1, rfl⟩
      exact congrArg (Encounter.found booking · answer) (htold now hreading).symm
    | _ => rfl
  refine (List.map_congr_left fun attempt hattempt => ?_).trans (List.map_id _)
  exact Prod.ext rfl (hdated attempt hattempt)

end Course

end Cascade
end WithdrawalCascade
