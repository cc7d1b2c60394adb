import WithdrawalCascade.Proofs.Cascade.Steady
import WithdrawalCascade.StandIn.Ensemble

/-!
# What stand-ins keep

A stand-in does two things about a call: it answers out of its settings, and it puts the call behind
those it kept before.  The settings are all of an ensemble but what it kept (`Ensemble.settings`).
No call changes them and no answer depends on anything else, so an ensemble is steady, whatever it
has kept already (`Ensemble.steady`), and its clock stands still (`Ensemble.tells`).

What a call leaves behind depends on the call and on whether the service for bookings can be reached
(`Kept.ofCall`).  So does what a whole dialogue leaves behind: it is that of the calls in its
transcript, on top of what was there before (`Ensemble.kept_run`).
-/

namespace WithdrawalCascade
namespace StandIn
namespace Ensemble

/-! ## 1.  Answers -/

/-- The ensemble as it was set up, with nothing kept. -/
def settings (ensemble : Ensemble) : Ensemble :=
  { ensemble with
    requests := { ensemble.requests with calls := [] }
    applications := { ensemble.applications with calls := [] }
    bookings := { ensemble.bookings with lookups := [], cancellations := [] }
    failures := [] }

/-- What was kept makes no difference to an answer. -/
theorem answer_settings (call : Call) (ensemble : Ensemble) :
    (world.answer call ensemble.settings).1 = (world.answer call ensemble).1 := by
  obtain ⟨requests, applications, bookings, reachable, failures, clock⟩ := ensemble
  cases reachable <;> cases call <;> rfl

/-- An answer makes no difference to the settings. -/
theorem settings_answer (call : Call) (ensemble : Ensemble) :
    (world.answer call ensemble).2.settings = ensemble.settings := by
  obtain ⟨requests, applications, bookings, reachable, failures, clock⟩ := ensemble
  cases reachable <;> cases call <;> rfl

theorem settings_of_reaches {ensemble later : Ensemble} (h : world.Reaches ensemble later) :
    later.settings = ensemble.settings := by
  induction h with
  | start => rfl
  | answer call _ ih => rw [settings_answer, ih]

/-- **An ensemble always answers as it answered at first.** -/
theorem answer_of_reaches {ensemble later : Ensemble} (h : world.Reaches ensemble later)
    (call : Call) : (world.answer call later).1 = (world.answer call ensemble).1 := by
  rw [← answer_settings call later, settings_of_reaches h, answer_settings]

/-- The clock of an ensemble stands still. -/
theorem tells (ensemble : Ensemble) : world.Tells ensemble ensemble.clock :=
  fun _ h => answer_of_reaches h .now

/-- The time of a cancellation goes into the booking that is handed back, and nowhere else. -/
theorem handingBack_cancel (ensemble : Ensemble) (booking : Booking) (cancellation : Cancellation)
    (context : Context) (time : Instant) :
    handingBack booking (world.answer (.cancelBooking booking cancellation context) ensemble).1 =
      handingBack booking (world.answer
        (.cancelBooking booking { cancellation with cancelledAt := time } context) ensemble).1 := by
  obtain ⟨requests, applications, bookings, reachable, failures, clock⟩ := ensemble
  cases reachable with
  | false => rfl
  | true =>
    show handingBack booking (.ok (bookings.cancelReply booking cancellation)) =
      handingBack booking
        (.ok (bookings.cancelReply booking { cancellation with cancelledAt := time }))
    rw [Bookings.cancelReply, Bookings.cancelReply]
    cases bookings.cancelOutcomes.lookup booking.id <;> rfl

/-- **Stand-ins are steady**, however they were set up and whatever they have kept. -/
theorem steady (ensemble : Ensemble) : world.Steady ensemble where
  requests _ _ h := answer_of_reaches h _
  applications _ _ h := answer_of_reaches h _
  finds _ _ h := answer_of_reaches h _
  cancels booking cancellation context time _ h := by
    rw [answer_of_reaches h]
    exact handingBack_cancel ensemble booking cancellation context time

/-! ## 2.  What is kept -/

/-- What was kept earlier and then what was kept later. -/
instance : Append Kept where
  append earlier later :=
    ⟨earlier.requests ++ later.requests, earlier.applications ++ later.applications,
      earlier.lookups ++ later.lookups, earlier.cancellations ++ later.cancellations,
      earlier.failures ++ later.failures⟩

namespace Kept

theorem append_eq (earlier later : Kept) :
    earlier ++ later =
      ⟨earlier.requests ++ later.requests, earlier.applications ++ later.applications,
        earlier.lookups ++ later.lookups, earlier.cancellations ++ later.cancellations,
        earlier.failures ++ later.failures⟩ := rfl

@[simp] theorem empty_append (kept : Kept) : ({} : Kept) ++ kept = kept := rfl

@[simp] theorem append_empty (kept : Kept) : kept ++ ({} : Kept) = kept := by
  simp [append_eq]

theorem append_assoc (first second third : Kept) :
    first ++ second ++ third = first ++ (second ++ third) := by
  simp [append_eq]

/-- What was kept later is all that was added. -/
@[simp] theorem since_append (earlier later : Kept) : (earlier ++ later).since earlier = later := by
  simp [append_eq, since]

/-- The same kept so many times in a row. -/
def copies (count : Nat) (kept : Kept) : Kept :=
  ⟨(List.replicate count kept.requests).flatten, (List.replicate count kept.applications).flatten,
    (List.replicate count kept.lookups).flatten, (List.replicate count kept.cancellations).flatten,
    (List.replicate count kept.failures).flatten⟩

theorem copies_succ (count : Nat) (kept : Kept) :
    kept.copies (count + 1) = kept ++ kept.copies count := rfl

/-- What one call leaves behind.  A service for bookings that cannot be reached keeps nothing. -/
def ofCall (reachable : Bool) : Call → Kept
  | .withdrawPlacementRequest withdrawal => { requests := [withdrawal] }
  | .withdrawPlacementApplication withdrawal => { applications := [withdrawal] }
  | .findBooking id => if reachable then { lookups := [id] } else {}
  | .now => {}
  | .cancelBooking booking cancellation context =>
    if reachable then { cancellations := [⟨booking.id, cancellation, context⟩] } else {}
  | .report failure => { failures := [failure] }

/-- What calls leave behind, one after the other. -/
def ofCalls (reachable : Bool) : List Call → Kept
  | [] => {}
  | call :: rest => ofCall reachable call ++ ofCalls reachable rest

theorem ofCalls_append (reachable : Bool) (front back : List Call) :
    ofCalls reachable (front ++ back) = ofCalls reachable front ++ ofCalls reachable back := by
  induction front with
  | nil => rfl
  | cons call rest ih => rw [List.cons_append, ofCalls, ih, ofCalls, append_assoc]

/-- Calls that are made so many times leave so many copies behind. -/
theorem ofCalls_replicate (reachable : Bool) (calls : List Call) (count : Nat) :
    ofCalls reachable (List.replicate count calls).flatten =
      (ofCalls reachable calls).copies count := by
  induction count with
  | zero => rfl
  | succ count ih =>
    rw [List.replicate_succ, List.flatten_cons, ofCalls_append, ih, copies_succ]

end Kept

/-- A call is kept on top of what was kept before. -/
theorem kept_answer (call : Call) (ensemble : Ensemble) :
    (world.answer call ensemble).2.kept =
      ensemble.kept ++ Kept.ofCall ensemble.bookingsReachable call := by
  obtain ⟨requests, applications, bookings, reachable, failures, clock⟩ := ensemble
  cases reachable <;> cases call <;>
    simp [world, answer, kept, Kept.ofCall, Kept.append_eq, Withdrawer.answer, Bookings.find,
      Bookings.cancel]

theorem bookingsReachable_answer (call : Call) (ensemble : Ensemble) :
    (world.answer call ensemble).2.bookingsReachable = ensemble.bookingsReachable := by
  show (world.answer call ensemble).2.settings.bookingsReachable = _
  rw [settings_answer]
  rfl

/-- **A dialogue leaves its calls behind**, on top of what was kept before. -/
theorem kept_run {α : Type} (dialogue : Dialogue α) (ensemble : Ensemble) :
    (dialogue.run world ensemble).state.kept = ensemble.kept ++
      Kept.ofCalls ensemble.bookingsReachable (dialogue.run world ensemble).transcript.calls := by
  induction dialogue generalizing ensemble with
  | done result => exact (Kept.append_empty _).symm
  | tell record rest ih => exact ih ensemble
  | ask call rest ih =>
    have hrest := ih (world.answer call ensemble).1 (world.answer call ensemble).2
    rw [kept_answer, bookingsReachable_answer, Kept.append_assoc] at hrest
    exact hrest

end Ensemble
end StandIn
end WithdrawalCascade
