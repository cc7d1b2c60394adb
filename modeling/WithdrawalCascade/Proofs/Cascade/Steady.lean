import WithdrawalCascade.Proofs.Cascade.Report
import WithdrawalCascade.Proofs.Cascade.Scripted

/-!
# Cascades among steady collaborators

Collaborators are steady if they answer a call by its arguments and by nothing else, neither by what
was called before nor by the time at which a booking is to be cancelled (`World.Steady`).  A
cancellation may hand back a booking that bears the time, as those of the stand-ins do; a cascade
never looks at it.  Nothing is asked of the clock.

A script answers in this way in whatever state it is.  A world that was set up before the cascade
does so from some state on, so this file speaks of the states that the world can come to from there.
What it answers to a cascade is a script (`World.script`), and so its cascades can be foreseen as
scripted ones can: whenever they are begun, they have the same result (`result_of_steady`) and make
the same calls but for the times (`calls_of_steady`).  With a clock that stands still
(`World.Tells`) the calls are the same altogether (`calls_of_still_clock`).
-/

namespace WithdrawalCascade

/-- The call with `time` for the time at which a booking is to be cancelled. -/
def Call.dated (time : Instant) : Call → Call
  | .cancelBooking booking cancellation context =>
    .cancelBooking booking { cancellation with cancelledAt := time } context
  | call => call

/-- A report bears no time. -/
theorem Call.report?_dated (time : Instant) (call : Call) :
    (call.dated time).report? = call.report? := by
  cases call <;> rfl

namespace Transcript

/-- The calls with all their arguments, in order. -/
def calls (transcript : Transcript) : List Call :=
  transcript.filterMap Entry.call?

theorem calls_append (front back : Transcript) :
    calls (front ++ back) = front.calls ++ back.calls :=
  List.filterMap_append

/-- What is reported is reported by calls. -/
theorem reports_eq_calls (transcript : Transcript) :
    transcript.reports = transcript.calls.filterMap Call.report? := by
  rw [reports, calls, List.filterMap_filterMap]

end Transcript

/-- The answer to a cancellation, with `booking` for the booking that is handed back. -/
def handingBack (booking : Booking) (answer : Except Fault (Outcome Booking)) :
    Except Fault (Outcome Booking) :=
  answer.map fun outcome => outcome.map fun _ => booking

/-- From `state` on the collaborators answer a call by its arguments, the time of a cancellation
aside.  Whatever booking a cancellation hands back, it counts as that which was cancelled. -/
structure World.Steady {σ : Type} (world : World σ) (state : σ) : Prop where
  requests (withdrawal : Withdrawal) {later : σ} (h : world.Reaches state later) :
    (world.answer (.withdrawPlacementRequest withdrawal) later).1 =
      (world.answer (.withdrawPlacementRequest withdrawal) state).1
  applications (withdrawal : Withdrawal) {later : σ} (h : world.Reaches state later) :
    (world.answer (.withdrawPlacementApplication withdrawal) later).1 =
      (world.answer (.withdrawPlacementApplication withdrawal) state).1
  finds (id : EntityId) {later : σ} (h : world.Reaches state later) :
    (world.answer (.findBooking id) later).1 = (world.answer (.findBooking id) state).1
  cancels (booking : Booking) (cancellation : Cancellation) (context : Context) (time : Instant)
    {later : σ} (h : world.Reaches state later) :
    handingBack booking (world.answer (.cancelBooking booking cancellation context) later).1 =
      handingBack booking (world.answer
        (.cancelBooking booking { cancellation with cancelledAt := time } context) state).1

/-- From `state` on the clock stands still at `time`. -/
def World.Tells {σ : Type} (world : World σ) (state : σ) (time : Instant) : Prop :=
  ∀ later, world.Reaches state later → (world.answer .now later).1 = time

/-- What a world answers in `state` to the calls of a cascade in `context`, written down as a
script. -/
def World.script {σ : Type} (world : World σ) (context : Context) (state : σ) :
    StandIn.Script where
  requests id := (world.answer (.withdrawPlacementRequest (Cascade.withdrawal id context)) state).1
  applications id :=
    (world.answer (.withdrawPlacementApplication (Cascade.withdrawal id context)) state).1
  finds id := (world.answer (.findBooking id) state).1
  cancels booking := handingBack booking
    (world.answer (.cancelBooking booking (Cascade.cancellation ⟨0⟩ context) context) state).1
  clockStep := 0

namespace Cascade

variable {σ : Type}

/-! ## 1.  Encounters -/

/-- The encounter with `time` for the time that was read, and with the booking that was found for
the one that its cancellation handed back. -/
def Encounter.settled (time : Instant) : Encounter → Encounter
  | .found booking _ answer => .found booking time (handingBack booking answer)
  | encounter => encounter

theorem Encounter.stops_settled (time : Instant) (policy : MissingBookingPolicy)
    (encounter : Encounter) : (encounter.settled time).stops policy = encounter.stops policy := by
  cases encounter <;> rfl

/-- Whether and why an encounter failed does not depend on what a cancellation handed back. -/
theorem Encounter.failure?_settled (time : Instant) (policy : MissingBookingPolicy)
    (encounter : Encounter) :
    (encounter.settled time).failure? policy = encounter.failure? policy := by
  cases encounter with
  | found booking now answer =>
    cases answer with
    | error fault => rfl
    | ok outcome => cases outcome <;> rfl
  | _ => rfl

/-- Settled encounters make the same calls, but for the time. -/
theorem map_dated_calls_attemptCalls (time : Instant) (policy : MissingBookingPolicy)
    (context : Context) (node : Node) (encounter : Encounter) :
    (Transcript.calls (attemptCalls policy context (node, encounter))).map (Call.dated time) =
      Transcript.calls (attemptCalls policy context (node, encounter.settled time)) := by
  have hreports : ∀ failures : List Failure,
      (Transcript.calls (failures.map fun failure => Entry.exchange (.report failure) ())).map
          (Call.dated time) =
        Transcript.calls (failures.map fun failure => .exchange (.report failure) ()) := by
    intro failures
    rw [Transcript.calls, List.filterMap_map, List.map_filterMap]
    rfl
  have hfailures : (encounter.settled time).failures policy context node =
      encounter.failures policy context node := by
    rw [Encounter.failures, Encounter.failures, Encounter.failure?_settled]
  rw [attemptCalls, Transcript.calls_append, List.map_append, hreports, attemptCalls, hfailures,
    Transcript.calls_append]
  cases encounter <;> rfl

/-- After the reply to a look-up a steady world leads where its script leads. -/
theorem settled_settle {world : World σ} {state reached : σ} (hsteady : world.Steady state)
    (hreached : world.Reaches state reached) (context : Context) (time : Instant)
    (reply : Except Fault (Option Booking)) :
    ((settle context reply).run world reached).result.settled time =
      lookedUp (world.script context state) time reply := by
  rcases reply with fault | booking?
  · rfl
  · cases booking? with
    | none => rfl
    | some booking =>
      have hcancels := hsteady.cancels booking
        (cancellation (world.answer .now reached).1 context) context ⟨0⟩ (hreached.answer .now)
      exact congrArg (Encounter.found booking time) hcancels

/-- In a steady world the encounter with a descendant is the one its script leads to. -/
theorem settled_consult {world : World σ} {state reached : σ} (hsteady : world.Steady state)
    (hreached : world.Reaches state reached) (context : Context) (time : Instant) (node : Node) :
    ((consult context node).run world reached).result.settled time =
      encounterOf (world.script context state) time node := by
  obtain ⟨kind, id, status, children⟩ := node
  cases kind with
  | application => rfl
  | placementRequest => exact congrArg Encounter.request (hsteady.requests _ hreached)
  | placementApplication =>
    exact congrArg Encounter.furtherRequest (hsteady.applications _ hreached)
  | booking =>
    have hsettled := settled_settle hsteady (hreached.answer (.findBooking id)) context time
      (world.answer (.findBooking id) reached).1
    exact hsettled.trans (congrArg (lookedUp _ time) (hsteady.finds id hreached))

/-! ## 2.  Runs -/

section

variable {world : World σ} {state reached : σ} (hsteady : world.Steady state)
  (hreached : world.Reaches state reached) (reporting : Reporting) (tree : Tree)
  (context : Context) (config : Config) (time : Instant)

include hsteady hreached

/-- **A cascade among steady collaborators can be foreseen**, but for the times and for what
cancellations hand back. -/
theorem attempts_of_steady :
    (attempts (steps reporting tree context config world reached)).map
        (fun attempt => (attempt.1, attempt.2.settled time)) =
      foreseen config.onMissingBooking (encounterOf (world.script context state) time)
        (tree.root.eligibleDescendants tree.blocking) :=
  map_attempts_steps (Encounter.stops_settled time config.onMissingBooking)
    (fun node _ hlater => settled_consult hsteady hlater context time node) hreached reporting tree

/-- Whenever it is begun, the cascade has the same result. -/
theorem result_of_steady :
    ((withdrawDescendants reporting tree context config).run world reached).result =
      verdict config.onMissingBooking (foreseen config.onMissingBooking
        (encounterOf (world.script context state) time)
        (tree.root.eligibleDescendants tree.blocking)) := by
  rw [← attempts_of_steady hsteady hreached reporting tree context config time,
    verdict_map (Encounter.stops_settled time config.onMissingBooking)]
  exact (course_run reporting tree context config world reached).result_eq_verdict

/-- Whenever it is begun, the cascade makes the same calls, but for the times. -/
theorem calls_of_steady :
    ((withdrawDescendants reporting tree context config).run world reached).transcript.calls.map
        (Call.dated time) =
      (foreseen config.onMissingBooking (encounterOf (world.script context state) time)
        (tree.root.eligibleDescendants tree.blocking)).flatMap fun attempt =>
          Transcript.calls (attemptCalls config.onMissingBooking context attempt) := by
  have hcourse := course_run reporting tree context config world reached
  rw [Transcript.calls, ← filterMap_exchanges fun _ => rfl, hcourse.exchanges_eq,
    List.filterMap_flatMap, List.map_flatMap,
    ← attempts_of_steady hsteady hreached reporting tree context config time, List.flatMap_map]
  exact List.flatMap_congr fun attempt _ =>
    map_dated_calls_attemptCalls time config.onMissingBooking context attempt.1 attempt.2

end

/-! ## 3.  A clock that stands still -/

/-- Where one and the same time was read at every reading, cancellations bear it already. -/
theorem Orderly.map_dated_calls {context : Context} {transcript : Transcript}
    (h : Orderly context transcript) {time : Instant}
    (htold : ∀ now ∈ transcript.readings, now = time) :
    transcript.calls.map (Call.dated time) = transcript.calls := by
  have hcancelled : ∀ cancellation ∈ transcript.cancellations, cancellation.cancelledAt = time := by
    intro cancellation hmem
    refine htold _ ?_
    rw [← h.cancelledAt_eq_readings]
    exact List.mem_map_of_mem hmem
  refine (List.map_congr_left fun call hcall => ?_).trans (List.map_id _)
  cases call with
  | cancelBooking booking cancellation context =>
    obtain ⟨entry, hentry, hmade⟩ := List.mem_filterMap.mp hcall
    have hmem : cancellation ∈ transcript.cancellations :=
      List.mem_filterMap.mpr ⟨entry, hentry, by rw [hmade]; rfl⟩
    rw [Call.dated, ← hcancelled cancellation hmem]
    rfl
  | _ => rfl

/-- A clock that stands still tells the same time at every reading. -/
theorem eq_of_mem_readings {α : Type} {world : World σ} {state reached : σ} {time : Instant}
    (hclock : world.Tells state time) (hreached : world.Reaches state reached)
    (dialogue : Dialogue α) :
    ∀ now ∈ (dialogue.run world reached).transcript.readings, now = time := by
  intro now hnow
  obtain ⟨entry, hentry, hreading⟩ := List.mem_filterMap.mp hnow
  cases entry with
  | told record => cases hreading
  | exchange call reply =>
    cases call with
    | now =>
      obtain ⟨later, hlater, hreply⟩ := hreached.exists_answer hentry
      cases hreading
      rw [hreply]
      exact hclock later hlater
    | _ => cases hreading

/-- With a clock that stands still, the calls are known with their times. -/
theorem calls_of_still_clock {world : World σ} {state reached : σ} {time : Instant}
    (hsteady : world.Steady state) (hclock : world.Tells state time)
    (hreached : world.Reaches state reached) (reporting : Reporting) (tree : Tree)
    (context : Context) (config : Config) :
    ((withdrawDescendants reporting tree context config).run world reached).transcript.calls =
      (foreseen config.onMissingBooking (encounterOf (world.script context state) time)
        (tree.root.eligibleDescendants tree.blocking)).flatMap fun attempt =>
          Transcript.calls (attemptCalls config.onMissingBooking context attempt) := by
  rw [← calls_of_steady hsteady hreached reporting tree context config time]
  have horderly := (course_run reporting tree context config world reached).orderly
  exact (horderly.map_dated_calls (eq_of_mem_readings hclock hreached _)).symm

end Cascade
end WithdrawalCascade
