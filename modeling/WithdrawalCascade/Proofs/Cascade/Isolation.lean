import WithdrawalCascade.Proofs.Cascade.Scripted
import WithdrawalCascade.Sample

/-!
# A failure stays with its descendant

Let two scripts differ in what they answer about one eligible descendant, and nowhere else: one may
let it be withdrawn, the other refuse, or find no booking, or give no answer at all.  As long as
neither cascade ends at that descendant, everyone else is treated alike.  The results are the same,
and so are the calls about all other descendants, but for the times, since a clock that is read
once more or less may tell the others a different time.

A cancellation is answered by the booking that is cancelled.  So that answers about one descendant
are not answers about another, different descendants must have different bookings
(`DistinctBookings`).
-/

namespace WithdrawalCascade
namespace StandIn.Script

/-- The booking that a script finds for a descendant, if the descendant is a booking. -/
def found? (script : Script) (node : Node) : Option Booking :=
  if node.kind = .booking then
    match script.finds node.id with
    | .ok booking? => booking?
    | .error _ => none
  else none

/-- For different descendants the script finds bookings with different identifiers. -/
def DistinctBookings (script : Script) (nodes : List Node) : Prop :=
  ∀ node ∈ nodes, ∀ other ∈ nodes, node.id ≠ other.id →
    ∀ booking ∈ script.found? node, ∀ another ∈ script.found? other, booking.id ≠ another.id

/-- The scripts answer alike, except for the calls about one descendant: its withdrawal, its
look-up, and the cancellation of what either script finds for it. -/
structure AgreeBesides (node : Node) (script other : Script) : Prop where
  requests : ∀ id, id ≠ node.id → script.requests id = other.requests id
  applications : ∀ id, id ≠ node.id → script.applications id = other.applications id
  finds : ∀ id, id ≠ node.id → script.finds id = other.finds id
  cancels : ∀ booking, (∀ own ∈ script.found? node, booking.id ≠ own.id) →
    (∀ own ∈ other.found? node, booking.id ≠ own.id) →
      script.cancels booking = other.cancels booking

end StandIn.Script

namespace Cascade

open StandIn (Script)

variable {σ τ : Type}

/-! ## 1.  One encounter -/

/-- Scripts that agree besides one descendant lead to the same encounters with all others. -/
theorem encounterOf_eq_of_agreeBesides {nodes : List Node} {apart node : Node}
    {script other : Script} (hagree : script.AgreeBesides apart other)
    (hdistinct : script.DistinctBookings nodes) (hdistinctOther : other.DistinctBookings nodes)
    (hapart : apart ∈ nodes) (hnode : node ∈ nodes) (hid : node.id ≠ apart.id) (time : Instant) :
    encounterOf script time node = encounterOf other time node := by
  rw [encounterOf, encounterOf]
  cases hkind : node.kind with
  | application => rfl
  | placementRequest => rw [hagree.requests node.id hid]
  | placementApplication => rw [hagree.applications node.id hid]
  | booking =>
    have hfinds := hagree.finds node.id hid
    cases hreply : script.finds node.id with
    | error fault =>
      rw [← hfinds, hreply]
      rfl
    | ok booking? =>
      rw [← hfinds, hreply]
      cases booking? with
      | none => rfl
      | some booking =>
        -- the booking is no one else's, so the scripts answer its cancellation alike
        have hfound : booking ∈ script.found? node := by
          rw [Script.found?, if_pos hkind, hreply]
          rfl
        have hfoundOther : booking ∈ other.found? node := by
          rw [Script.found?, if_pos hkind, ← hfinds, hreply]
          rfl
        have hcancels := hagree.cancels booking
          (hdistinct node hnode apart hapart hid booking hfound)
          (hdistinctOther node hnode apart hapart hid booking hfoundOther)
        exact congrArg (Encounter.found booking time) hcancels

/-! ## 2.  All encounters -/

/-- **Where encounters differ with one descendant only, foreseen attempts differ in that one only**,
unless one of them ends there. -/
theorem filter_foreseen_eq {policy : MissingBookingPolicy} {expected other : Node → Encounter}
    {id : EntityId} {nodes : List Node}
    (hexpected : ∀ node ∈ nodes, node.id ≠ id → expected node = other node)
    (hgoes : ∀ attempt ∈ foreseen policy expected nodes, attempt.1.id = id →
      attempt.2.stops policy = false)
    (hgoesOther : ∀ attempt ∈ foreseen policy other nodes, attempt.1.id = id →
      attempt.2.stops policy = false) :
    (foreseen policy expected nodes).filter (fun attempt => attempt.1.id ≠ id) =
      (foreseen policy other nodes).filter fun attempt => attempt.1.id ≠ id := by
  induction nodes with
  | nil => rfl
  | cons node rest ih =>
    obtain ⟨hnode, hrest⟩ := List.forall_mem_cons.mp hexpected
    rw [foreseen] at hgoes hgoesOther
    rw [foreseen, foreseen]
    obtain ⟨hfirst, hlater⟩ := List.forall_mem_cons.mp hgoes
    obtain ⟨hfirstOther, hlaterOther⟩ := List.forall_mem_cons.mp hgoesOther
    by_cases hid : node.id = id
    · -- here the encounters may differ, but neither ends the cascade
      have hgo : (expected node).stops policy = false := hfirst hid
      have hgoOther : (other node).stops policy = false := hfirstOther hid
      rw [hgo, if_neg Bool.false_ne_true] at hlater ⊢
      rw [hgoOther, if_neg Bool.false_ne_true] at hlaterOther ⊢
      rw [List.filter_cons_of_neg (by simp [hid]), List.filter_cons_of_neg (by simp [hid])]
      exact ih hrest hlater hlaterOther
    · rw [hnode hid] at hlater ⊢
      rw [List.filter_cons_of_pos (by simp [hid]), List.filter_cons_of_pos (by simp [hid])]
      cases hstops : (other node).stops policy with
      | true => rfl
      | false =>
        rw [hstops, if_neg Bool.false_ne_true] at hlater hlaterOther
        exact congrArg _ (ih hrest hlater hlaterOther)

/-- Attempts that do not end the cascade have no part in the verdict. -/
theorem verdict_filter {policy : MissingBookingPolicy} {id : EntityId}
    {attempted : List (Node × Encounter)}
    (hgoes : ∀ attempt ∈ attempted, attempt.1.id = id → attempt.2.stops policy = false) :
    verdict policy (attempted.filter fun attempt => attempt.1.id ≠ id) =
      verdict policy attempted := by
  have hfind : (attempted.filter fun attempt => attempt.1.id ≠ id).find?
      (fun attempt => attempt.2.stops policy) =
        attempted.find? fun attempt => attempt.2.stops policy := by
    induction attempted with
    | nil => rfl
    | cons attempt rest ih =>
      obtain ⟨hattempt, hrest⟩ := List.forall_mem_cons.mp hgoes
      by_cases hid : attempt.1.id = id
      · rw [List.filter_cons_of_neg (by simp [hid]),
          List.find?_cons_of_neg (by simp [hattempt hid])]
        exact ih hrest
      · rw [List.filter_cons_of_pos (by simp [hid]), List.find?_cons, List.find?_cons, ih hrest]
  rw [verdict, verdict, hfind]

/-! ## 3.  Two runs -/

section

variable {reporting : Reporting} {tree : Tree} {context : Context}
  {policy : MissingBookingPolicy} {steps : List Step} {result : Except Fault Unit}
  {transcript : Transcript}

/-- A run that did not fail over a descendant did not end there. -/
theorem Course.stops_eq_false
    (h : Course reporting tree context policy steps result transcript) {id : EntityId}
    (hresult : result ≠ .error (.entityNotFound "booking" id)) :
    ∀ attempt ∈ attempts steps, attempt.1.id = id → attempt.2.stops policy = false := by
  rintro ⟨node, encounter⟩ hattempt rfl
  have hstep := mem_attempts_iff.mp hattempt
  cases h with
  | complete hassessed hfits hquiet htally => exact hquiet _ hstep
  | @stopped earlier last rest hassessed hfits hquiet hkind hpolicy =>
    rcases List.mem_append.mp hstep with hearlier | hlast
    · exact hquiet _ hearlier
    · obtain ⟨rfl, -⟩ : node = last ∧ encounter = .absent := by simpa using hlast
      exact absurd rfl hresult

/-- The attempts besides those on one descendant, with one time for all times. -/
def othersDated (time : Instant) (id : EntityId) (attempted : List (Node × Encounter)) :
    List (Node × Encounter) :=
  (attempted.map fun attempt => (attempt.1, attempt.2.dated time)).filter fun attempt =>
    attempt.1.id ≠ id

/-- Times have no part in what ends a cascade. -/
theorem stops_map_dated {policy : MissingBookingPolicy} {id : EntityId}
    {attempted : List (Node × Encounter)} (time : Instant)
    (hgoes : ∀ attempt ∈ attempted, attempt.1.id = id → attempt.2.stops policy = false) :
    ∀ attempt ∈ attempted.map (fun attempt => (attempt.1, attempt.2.dated time)),
      attempt.1.id = id → attempt.2.stops policy = false := by
  refine List.forall_mem_map.mpr fun attempt hattempt hid => ?_
  rw [Encounter.stops_dated]
  exact hgoes attempt hattempt hid

theorem verdict_othersDated {policy : MissingBookingPolicy} {id : EntityId}
    {attempted : List (Node × Encounter)} (time : Instant)
    (hgoes : ∀ attempt ∈ attempted, attempt.1.id = id → attempt.2.stops policy = false) :
    verdict policy (othersDated time id attempted) = verdict policy attempted := by
  rw [othersDated, verdict_filter (stops_map_dated time hgoes),
    verdict_map (Encounter.stops_dated time policy)]

theorem Course.map_dated_besides
    (h : Course reporting tree context policy steps result transcript) (time : Instant)
    (id : EntityId) :
    (transcript.besides id).map (Entry.dated time) =
      (othersDated time id (attempts steps)).flatMap (attemptCalls policy context) := by
  rw [h.besides_eq, List.map_flatMap, othersDated, List.filter_map, List.flatMap_map]
  exact List.flatMap_congr fun attempt _ =>
    map_dated_attemptCalls time policy context attempt.1 attempt.2

/-- Where the clock told one and the same time at every reading, that is the time put for all. -/
theorem Course.besides_eq_othersDated
    (h : Course reporting tree context policy steps result transcript) {time : Instant}
    (htold : ∀ now ∈ transcript.readings, now = time) (id : EntityId) :
    transcript.besides id =
      (othersDated time id (attempts steps)).flatMap (attemptCalls policy context) := by
  rw [h.besides_eq, othersDated, h.map_dated_attempts htold]

end

/-- Two scripted cascades over scripts that differ about one eligible descendant, neither of which
ends there, have the same result and make the same calls about all other descendants, with the same
answers, but for the times that the clock told and that were written into cancellations.  Where
both clocks told one and the same time at every reading, the calls are the same altogether. -/
theorem failure_isolated (reporting : Reporting) (tree : Tree) (context : Context)
    (config : Config) (node : Node)
    (hnode : node ∈ tree.root.eligibleDescendants tree.blocking) (script other : Script)
    (hagree : script.AgreeBesides node other)
    (hdistinct : script.DistinctBookings (tree.root.eligibleDescendants tree.blocking))
    (hdistinctOther : other.DistinctBookings (tree.root.eligibleDescendants tree.blocking))
    (world : World σ) (hfollows : world.Follows context script) (state : σ)
    (another : World τ) (hfollowsOther : another.Follows context other) (start : τ)
    (hgoes : ((withdrawDescendants reporting tree context config).run world state).result ≠
      .error (.entityNotFound "booking" node.id))
    (hgoesOther : ((withdrawDescendants reporting tree context config).run another start).result ≠
      .error (.entityNotFound "booking" node.id)) :
    let run := (withdrawDescendants reporting tree context config).run world state
    let rerun := (withdrawDescendants reporting tree context config).run another start
    run.result = rerun.result ∧
      (∀ time, (run.transcript.besides node.id).map (Entry.dated time) =
        (rerun.transcript.besides node.id).map (Entry.dated time)) ∧
      ∀ time, (∀ now ∈ run.transcript.readings, now = time) →
        (∀ now ∈ rerun.transcript.readings, now = time) →
          run.transcript.besides node.id = rerun.transcript.besides node.id := by
  intro run rerun
  have hcourse := course_run reporting tree context config world state
  have hrecourse := course_run reporting tree context config another start
  have hcontinues := hcourse.stops_eq_false hgoes
  have hcontinuesOther := hrecourse.stops_eq_false hgoesOther
  -- but for the times, both runs make the attempts that their scripts lead one to expect
  have hothers : ∀ time,
      othersDated time node.id (attempts (steps reporting tree context config world state)) =
        othersDated time node.id
          (attempts (steps reporting tree context config another start)) := by
    intro time
    have hforeseen := attempts_of_follows hfollows time reporting tree config state
    have hforeseenOther := attempts_of_follows hfollowsOther time reporting tree config start
    have hgo := stops_map_dated time hcontinues
    have hgoOther := stops_map_dated time hcontinuesOther
    rw [hforeseen] at hgo
    rw [hforeseenOther] at hgoOther
    rw [othersDated, othersDated, hforeseen, hforeseenOther]
    exact filter_foreseen_eq (fun met hmet hid =>
      encounterOf_eq_of_agreeBesides hagree hdistinct hdistinctOther hnode hmet hid time)
      hgo hgoOther
  refine ⟨?_, ?_, ?_⟩
  · calc run.result
        = verdict config.onMissingBooking
            (attempts (steps reporting tree context config world state)) :=
          hcourse.result_eq_verdict
      _ = verdict config.onMissingBooking
            (attempts (steps reporting tree context config another start)) := by
          rw [← verdict_othersDated ⟨0⟩ hcontinues, ← verdict_othersDated ⟨0⟩ hcontinuesOther,
            hothers]
      _ = rerun.result := hrecourse.result_eq_verdict.symm
  · intro time
    rw [hcourse.map_dated_besides, hrecourse.map_dated_besides, hothers]
  · intro time htold htoldOther
    rw [hcourse.besides_eq_othersDated htold, hrecourse.besides_eq_othersDated htoldOther, hothers]

/-! ## 4.  A look-up without an answer -/

/-- Where a script is written down in tables that list no look-ups but unanswered ones, every
booking is found under its own identifier. -/
theorem distinctBookings_of_faults {tables : StandIn.ScriptTables}
    (hfaults : ∀ entry ∈ tables.finds, ∃ fault, entry.2 = .error fault) (nodes : List Node) :
    tables.script.DistinctBookings nodes := by
  have hown : ∀ node, ∀ booking ∈ tables.script.found? node, booking.id = node.id := by
    intro node booking hbooking
    have hreply : tables.script.finds node.id = (tables.finds.lookup node.id).getD
        (.ok (some (StandIn.ScriptTables.defaultBooking node.id))) := rfl
    rw [Script.found?, hreply] at hbooking
    split at hbooking
    · cases hlookup : tables.finds.lookup node.id with
      | none =>
        rw [hlookup] at hbooking
        obtain rfl : StandIn.ScriptTables.defaultBooking node.id = booking :=
          Option.some.inj hbooking
        rfl
      | some reply =>
        obtain ⟨front, back, hentries, -⟩ := List.lookup_eq_some_iff.mp hlookup
        obtain ⟨fault, hfault⟩ := hfaults (node.id, reply) (by simp [hentries])
        rw [hlookup, Option.getD_some, show reply = .error fault from hfault] at hbooking
        cases hbooking
    · cases hbooking
  intro node _ other _ hid booking hbooking another hanother hsame
  exact hid ((hown node booking hbooking).symm.trans (hsame.trans (hown other another hanother)))

/-- An application with two bookings. -/
def twoBookings : Tree where
  root := Sample.node (EntityId.ofNat 1) .application true
    [Sample.node (EntityId.ofNat 2) .booking true [],
      Sample.node (EntityId.ofNat 3) .booking true []]
  ids_nodup := by
    rw [Node.all_eq_preorder]
    decide

/-- Everything is answered with success, except that the look-up of the first of two bookings gets
no answer. -/
def unanswered (clockStep : Int) : StandIn.ScriptTables :=
  { finds := [(EntityId.ofNat 2, .error (.infrastructure "timed out"))], clockStep }

/-- Whether the look-up of the first of two bookings is answered or not, the second one is looked up
and cancelled alike, but for the time where the clock moves. -/
theorem isolated_unanswered_lookup :
    let cascade := withdrawDescendants .plain twoBookings (Sample.systemContext twoBookings.root) {}
    let run := fun tables : StandIn.ScriptTables => cascade.run tables.script.world ⟨0⟩
    let besides := fun tables => (run tables).transcript.besides (EntityId.ofNat 2)
    (run {}).result = (run (unanswered 1000)).result ∧
      (besides {}).map (Entry.dated ⟨0⟩) = (besides (unanswered 1000)).map (Entry.dated ⟨0⟩) ∧
      besides { clockStep := 0 } = besides (unanswered 0) := by
  intro cascade run besides
  have heligible : twoBookings.root.eligibleDescendants twoBookings.blocking =
      [Sample.node (EntityId.ofNat 2) .booking true [],
        Sample.node (EntityId.ofNat 3) .booking true []] := by
    rw [Tree.eligibleDescendants_eq_filter]
    rfl
  have hagree : ∀ clockStep : Int, Script.AgreeBesides
      (Sample.node (EntityId.ofNat 2) .booking true [])
      (StandIn.ScriptTables.script { clockStep }) (unanswered clockStep).script := by
    refine fun clockStep => ⟨fun _ _ => rfl, fun _ _ => rfl, fun id hid => ?_, fun _ _ _ => rfl⟩
    have hother : (id == EntityId.ofNat 2) = false := beq_eq_false_iff_ne.mpr hid
    show _ = Option.getD (List.lookup id [(EntityId.ofNat 2, _)]) _
    rw [List.lookup_cons, hother]
    rfl
  have hsuccess : ∀ clockStep : Int, (run { clockStep }).result = .ok () ∧
      (run (unanswered clockStep)).result = .ok () := by
    intro clockStep
    simp only [run, cascade, withdrawDescendants, Node.assessDescendants,
      Node.descendants_eq_preorder]
    exact ⟨rfl, rfl⟩
  have hisolated := fun clockStep : Int => failure_isolated .plain twoBookings
    (Sample.systemContext twoBookings.root) {} (Sample.node (EntityId.ofNat 2) .booking true [])
    (by rw [heligible]; exact List.mem_cons_self) _ _ (hagree clockStep)
    (distinctBookings_of_faults (fun _ hentry => absurd hentry List.not_mem_nil) _)
    (distinctBookings_of_faults
      (fun entry hentry => ⟨_, congrArg Prod.snd (List.mem_singleton.mp hentry)⟩) _)
    _ (Script.follows_world _ _) ⟨0⟩ _ (Script.follows_world _ _) ⟨0⟩
    (by rw [(hsuccess clockStep).1]; rintro ⟨⟩) (by rw [(hsuccess clockStep).2]; rintro ⟨⟩)
  have hreadings : (run { clockStep := 0 }).transcript.readings = [⟨0⟩, ⟨0⟩] ∧
      (run (unanswered 0)).transcript.readings = [⟨0⟩] := by
    simp only [run, cascade, withdrawDescendants, Node.assessDescendants,
      Node.descendants_eq_preorder]
    exact ⟨rfl, rfl⟩
  refine ⟨(hisolated 1000).1, (hisolated 1000).2.1 ⟨0⟩, (hisolated 0).2.2 ⟨0⟩ ?_ ?_⟩
  · show ∀ now ∈ (run { clockStep := 0 }).transcript.readings, now = ⟨0⟩
    rw [hreadings.1]
    simp
  · show ∀ now ∈ (run (unanswered 0)).transcript.readings, now = ⟨0⟩
    rw [hreadings.2]
    simp

end Cascade
end WithdrawalCascade
