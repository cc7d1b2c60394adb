import WithdrawalCascade.Proofs.Cascade.Attribution

/-!
# How bookings are cancelled

A booking that is found is cancelled at once: the clock is read, and the cancellation bears that
reading, the notes of the cascade and no reason.  The clock is read for no other purpose, and
nothing else is cancelled.

`Orderly` says this of a whole transcript, the log included, as a grammar: a transcript is a
sequence of entries that stand alone, and of the three calls over a booking that was found.  It is
read off at single positions by `Orderly.place`, and in total by `Orderly.cancelledAt_eq_readings`.
-/

namespace WithdrawalCascade

/-- What a reading of the clock said. -/
def Entry.reading? : Entry → Option Instant
  | .exchange .now now => some now
  | _ => none

/-- What a call cancels a booking with. -/
def Call.cancellation? : Call → Option Cancellation
  | .cancelBooking _ cancellation _ => some cancellation
  | _ => none

namespace Transcript

/-- The readings of the clock, in order. -/
def readings (transcript : Transcript) : List Instant :=
  transcript.filterMap Entry.reading?

/-- What bookings were cancelled with, in order. -/
def cancellations (transcript : Transcript) : List Cancellation :=
  transcript.filterMap fun entry => entry.call?.bind Call.cancellation?

end Transcript

namespace Cascade

variable {σ : Type}

/-! ## 1.  The grammar -/

/-- An entry that calls for nothing before or after it: a withdrawal of the kind that a cascade asks
for, a look-up that finds no booking, a report, or something that is told. -/
def StandsAlone (context : Context) : Entry → Prop
  | .told _ => True
  | .exchange (.withdrawPlacementRequest withdrawal) _ =>
    withdrawal = ⟨withdrawal.id, none, none, context⟩
  | .exchange (.withdrawPlacementApplication withdrawal) _ =>
    withdrawal = ⟨withdrawal.id, none, none, context⟩
  | .exchange (.findBooking _) reply => ∀ booking, reply ≠ .ok (some booking)
  | .exchange .now _ => False
  | .exchange (.cancelBooking ..) _ => False
  | .exchange (.report _) _ => True

/-- Transcripts in which bookings that are found are cancelled as they should be, and no others. -/
inductive Orderly (context : Context) : Transcript → Prop where
  | nil : Orderly context []
  | alone {entry : Entry} {rest : Transcript} : StandsAlone context entry → Orderly context rest →
      Orderly context (entry :: rest)
  | found {id : EntityId} {booking : Booking} {now : Instant}
      {answer : Except Fault (Outcome Booking)} {rest : Transcript} : Orderly context rest →
      Orderly context (.exchange (.findBooking id) (.ok (some booking)) :: .exchange .now now ::
        .exchange (.cancelBooking booking (cancellation now context) context) answer :: rest)

/-- The place of an entry between what comes before and what comes after it: alone, or first,
second or third of the calls over a booking that was found. -/
inductive Place (context : Context) : Transcript → Entry → Transcript → Prop where
  | alone {before after : Transcript} {entry : Entry} : StandsAlone context entry →
      Place context before entry after
  | find (front : Transcript) {id : EntityId} {booking : Booking} {now : Instant}
      {answer : Except Fault (Outcome Booking)} {rest : Transcript} :
      Place context front (.exchange (.findBooking id) (.ok (some booking)))
        (.exchange .now now ::
          .exchange (.cancelBooking booking (cancellation now context) context) answer :: rest)
  | read (front : Transcript) {id : EntityId} {booking : Booking} {now : Instant}
      {answer : Except Fault (Outcome Booking)} {rest : Transcript} :
      Place context (front ++ [.exchange (.findBooking id) (.ok (some booking))])
        (.exchange .now now)
        (.exchange (.cancelBooking booking (cancellation now context) context) answer :: rest)
  | cancel (front : Transcript) {id : EntityId} {booking : Booking} {now : Instant}
      {answer : Except Fault (Outcome Booking)} {rest : Transcript} :
      Place context
        (front ++ [.exchange (.findBooking id) (.ok (some booking)), .exchange .now now])
        (.exchange (.cancelBooking booking (cancellation now context) context) answer) rest

/-- What came earlier still does not change a place. -/
theorem Place.cons {context : Context} {before after : Transcript} {entry : Entry}
    (h : Place context before entry after) (first : Entry) :
    Place context (first :: before) entry after := by
  cases h with
  | alone halone => exact .alone halone
  | find front => exact .find (first :: before)
  | read front => exact .read (first :: front)
  | cancel front => exact .cancel (first :: front)

namespace Orderly

variable {context : Context}

theorem append {front back : Transcript} (hfront : Orderly context front)
    (hback : Orderly context back) : Orderly context (front ++ back) := by
  induction hfront with
  | nil => exact hback
  | alone halone _ ih => exact .alone halone ih
  | found _ ih => exact .found ih

theorem of_alone {transcript : Transcript}
    (h : ∀ entry ∈ transcript, StandsAlone context entry) : Orderly context transcript := by
  induction transcript with
  | nil => exact .nil
  | cons entry rest ih =>
    obtain ⟨hentry, hrest⟩ := List.forall_mem_cons.mp h
    exact .alone hentry (ih hrest)

/-- **Every entry stands alone or among the three calls over a booking that was found.** -/
theorem place {transcript : Transcript} (h : Orderly context transcript)
    {before after : Transcript} {entry : Entry} (hsplit : transcript = before ++ entry :: after) :
    Place context before entry after := by
  induction h generalizing before with
  | nil => exact absurd hsplit (by simp)
  | alone halone _ ih =>
    cases before with
    | nil =>
      obtain ⟨rfl, -⟩ := List.cons.inj hsplit
      exact .alone halone
    | cons first before =>
      obtain ⟨-, hrest⟩ := List.cons.inj hsplit
      exact (ih hrest).cons first
  | found _ ih =>
    -- the entry is one of the three calls, or it comes after them
    cases before with
    | nil =>
      obtain ⟨rfl, rfl⟩ := List.cons.inj hsplit
      exact .find []
    | cons first before =>
    obtain ⟨rfl, hread⟩ := List.cons.inj hsplit
    cases before with
    | nil =>
      obtain ⟨rfl, rfl⟩ := List.cons.inj hread
      exact .read []
    | cons second before =>
    obtain ⟨rfl, hcancel⟩ := List.cons.inj hread
    cases before with
    | nil =>
      obtain ⟨rfl, rfl⟩ := List.cons.inj hcancel
      exact .cancel []
    | cons third before =>
      obtain ⟨-, hrest⟩ := List.cons.inj hcancel
      exact (((ih hrest).cons third).cons _).cons _

/-- Cancellations and readings come in the same order and number, each cancellation with the
reading that was made for it. -/
theorem cancelledAt_eq_readings {transcript : Transcript} (h : Orderly context transcript) :
    transcript.cancellations.map Cancellation.cancelledAt = transcript.readings := by
  induction h with
  | nil => rfl
  | @alone entry rest halone _ ih =>
    -- neither reader takes anything from an entry that stands alone
    rw [Transcript.cancellations, Transcript.readings] at ih ⊢
    cases entry with
    | told record => exact ih
    | exchange call reply =>
      cases call with
      | now => exact halone.elim
      | cancelBooking booking cancellation context => exact halone.elim
      | _ => exact ih
  | found _ ih => exact congrArg _ ih

end Orderly

/-! ## 2.  Cascades follow the grammar -/

theorem orderly_encounter (context : Context) (id : EntityId) (encounter : Encounter) :
    Orderly context (encounter.exchanges context id) := by
  cases encounter with
  | idle => exact .nil
  | request answer => exact .alone rfl .nil
  | furtherRequest answer => exact .alone rfl .nil
  | unsearched fault => exact .alone (by rintro booking ⟨⟩) .nil
  | absent => exact .alone (by rintro booking ⟨⟩) .nil
  | found booking now answer => exact .found .nil

/-- **A step is orderly**, whatever its encounter was. -/
theorem orderly_step (reporting : Reporting) (policy : MissingBookingPolicy) (context : Context)
    (step : Step) : Orderly context (step.transcript reporting policy context) := by
  cases step with
  | skipped node reason => exact .alone trivial .nil
  | attempted node encounter =>
    have halarms : Orderly context (encounter.alarms policy node.id) := by
      refine .of_alone fun entry hentry => ?_
      rw [Encounter.alarms] at hentry
      split at hentry
      · obtain rfl := List.mem_singleton.mp hentry
        trivial
      · exact absurd hentry List.not_mem_nil
    have hreports : Orderly context
        ((encounter.failures policy context node).flatMap reporting.entries) := by
      refine .of_alone fun entry hentry => ?_
      obtain ⟨failure, -, hentry⟩ := List.mem_flatMap.mp hentry
      rcases List.mem_cons.mp hentry with rfl | hentry
      · trivial
      · cases reporting with
        | plain => exact absurd hentry List.not_mem_nil
        | logged =>
          obtain rfl := List.mem_singleton.mp hentry
          trivial
    exact .alone trivial
      ((orderly_encounter context node.id encounter).append (halarms.append hreports))

theorem orderly_steps (reporting : Reporting) (policy : MissingBookingPolicy) (context : Context)
    (steps : List Step) :
    Orderly context (steps.flatMap (Step.transcript reporting policy context)) := by
  induction steps with
  | nil => exact .nil
  | cons step rest ih =>
    rw [List.flatMap_cons]
    exact (orderly_step reporting policy context step).append ih

/-- **Every run is orderly.** -/
theorem Course.orderly {reporting : Reporting} {tree : Tree} {context : Context}
    {policy : MissingBookingPolicy} {steps : List Step} {result : Except Fault Unit}
    {transcript : Transcript}
    (h : Course reporting tree context policy steps result transcript) :
    Orderly context transcript := by
  have hopening : Orderly context (opening tree context) := .alone trivial (.alone trivial .nil)
  cases h with
  | complete => exact hopening.append ((orderly_steps ..).append (.alone trivial .nil))
  | stopped =>
    have hlast : ∀ booking, (Except.ok none : Except Fault (Option Booking)) ≠ .ok (some booking) :=
      by rintro booking ⟨⟩
    exact hopening.append ((orderly_steps ..).append
      (.alone trivial (.alone hlast (.alone trivial .nil))))

/-! ## 3.  Look-ups that find no booking -/

/-- After a look-up that found no booking, nothing belongs to the attempt but a report. -/
theorem standsAlone_of_lookup {policy : MissingBookingPolicy} {context : Context} {node : Node}
    {encounter : Encounter} {id : EntityId} {reply : Except Fault (Option Booking)}
    (hlookup : .exchange (.findBooking id) reply ∈ attemptCalls policy context (node, encounter))
    (hreply : ∀ booking, reply ≠ .ok (some booking)) :
    node.id = id ∧ ∀ entry ∈ attemptCalls policy context (node, encounter),
      StandsAlone context entry := by
  have hreports : ∀ entry ∈ (encounter.failures policy context node).map
      fun failure => Entry.exchange (.report failure) (), StandsAlone context entry :=
    List.forall_mem_map.mpr fun _ _ => trivial
  have hnoReport : .exchange (.findBooking id) reply ∉ (encounter.failures policy context node).map
      fun failure => Entry.exchange (.report failure) () := by
    intro hreport
    obtain ⟨failure, -, hfailure⟩ := List.mem_map.mp hreport
    cases hfailure
  have hcall := (List.mem_append.mp hlookup).resolve_right hnoReport
  cases encounter with
  | idle => exact absurd hcall List.not_mem_nil
  | request answer => cases List.mem_singleton.mp hcall
  | furtherRequest answer => cases List.mem_singleton.mp hcall
  | found booking now answer =>
    rcases List.mem_cons.mp hcall with hfirst | hcall
    · cases hfirst
      exact absurd rfl (hreply booking)
    · simp at hcall
  | unsearched fault =>
    cases List.mem_singleton.mp hcall
    exact ⟨rfl, List.forall_mem_cons.mpr ⟨hreply, hreports⟩⟩
  | absent =>
    cases List.mem_singleton.mp hcall
    exact ⟨rfl, List.forall_mem_cons.mpr ⟨hreply, hreports⟩⟩

/-- What belongs to a descendant whose look-up found no booking stands alone. -/
theorem Course.standsAlone_about {reporting : Reporting} {tree : Tree} {context : Context}
    {policy : MissingBookingPolicy} {steps : List Step} {result : Except Fault Unit}
    {transcript : Transcript}
    (h : Course reporting tree context policy steps result transcript)
    {id : EntityId} {reply : Except Fault (Option Booking)}
    (hlookup : .exchange (.findBooking id) reply ∈ transcript)
    (hreply : ∀ booking, reply ≠ .ok (some booking)) :
    ∀ entry ∈ transcript.about id, StandsAlone context entry := by
  have hcalls : .exchange (.findBooking id) reply ∈ transcript.exchanges :=
    List.mem_filter.mpr ⟨hlookup, rfl⟩
  rw [h.exchanges_eq, List.mem_flatMap] at hcalls
  obtain ⟨⟨node, encounter⟩, hattempt, hcall⟩ := hcalls
  obtain ⟨hid, halone⟩ := standsAlone_of_lookup hcall hreply
  intro entry hentry
  rw [h.about_eq, List.mem_flatMap] at hentry
  obtain ⟨other, hother, hentry⟩ := hentry
  obtain ⟨hother, hsame⟩ := List.mem_filter.mp hother
  -- the attempt that the entry is of is the attempt that the look-up is of
  obtain rfl : other = (node, encounter) :=
    h.attempt_eq_of_id_eq hother hattempt ((of_decide_eq_true hsame).trans hid.symm)
  exact halone entry hentry

/-! ## 4.  The protocol -/

/-- In every run, whatever is answered: a look-up that finds a booking is followed at once by a
reading of the clock and the cancellation of that booking, with that reading, the notes of the
cascade, no reason and the context unchanged.  The clock is read nowhere else, and nowhere else is
anything cancelled; so cancellations bear the readings one by one.  Requests for placement of
either kind are withdrawn without an actor or a reason, in the context unchanged. -/
theorem booking_protocol (reporting : Reporting) (tree : Tree) (context : Context)
    (config : Config) (world : World σ) (state : σ) :
    let transcript :=
      ((withdrawDescendants reporting tree context config).run world state).transcript
    let notes :=
      "Automatically withdrawn as " ++ context.triggeringKind.label ++ " was withdrawn"
    (∀ before id booking after,
        transcript = before ++ .exchange (.findBooking id) (.ok (some booking)) :: after →
          ∃ now answer rest, after = .exchange .now now ::
            .exchange (.cancelBooking booking ⟨now, none, notes⟩ context) answer :: rest) ∧
      (∀ id reply, .exchange (.findBooking id) reply ∈ transcript →
        (∀ booking, reply ≠ .ok (some booking)) → ∀ entry ∈ transcript.about id,
          entry.reading? = none ∧ entry.call?.bind Call.cancellation? = none) ∧
      (∀ before now after, transcript = before ++ .exchange .now now :: after →
        ∃ front id booking,
          before = front ++ [.exchange (.findBooking id) (.ok (some booking))]) ∧
      (∀ before booking cancellation handed answer after,
        transcript =
            before ++ .exchange (.cancelBooking booking cancellation handed) answer :: after →
          ∃ front id now, before = front ++ [.exchange (.findBooking id) (.ok (some booking)),
              .exchange .now now] ∧
            cancellation = ⟨now, none, notes⟩ ∧ handed = context) ∧
      transcript.cancellations.map Cancellation.cancelledAt = transcript.readings ∧
      (∀ withdrawal answer,
        .exchange (.withdrawPlacementRequest withdrawal) answer ∈ transcript →
          withdrawal = ⟨withdrawal.id, none, none, context⟩) ∧
      ∀ withdrawal answer,
        .exchange (.withdrawPlacementApplication withdrawal) answer ∈ transcript →
          withdrawal = ⟨withdrawal.id, none, none, context⟩ := by
  intro transcript notes
  have hcourse := course_run reporting tree context config world state
  have horderly : Orderly context transcript := hcourse.orderly
  refine ⟨?_, ?_, ?_, ?_, horderly.cancelledAt_eq_readings, ?_, ?_⟩
  · intro before id booking after hsplit
    cases horderly.place hsplit with
    | alone halone => exact absurd rfl (halone booking)
    | find => exact ⟨_, _, _, rfl⟩
  · intro id reply hlookup hreply entry hentry
    have halone := hcourse.standsAlone_about hlookup hreply entry hentry
    cases entry with
    | told record => exact ⟨rfl, rfl⟩
    | exchange call reply =>
      cases call with
      | now => exact halone.elim
      | cancelBooking booking cancellation context => exact halone.elim
      | _ => exact ⟨rfl, rfl⟩
  · intro before now after hsplit
    cases horderly.place hsplit with
    | alone halone => exact halone.elim
    | read front => exact ⟨front, _, _, rfl⟩
  · intro before booking cancellation handed answer after hsplit
    cases horderly.place hsplit with
    | alone halone => exact halone.elim
    | cancel front => exact ⟨front, _, _, rfl, rfl, rfl⟩
  · intro withdrawal answer hcall
    obtain ⟨before, after, hsplit⟩ := List.append_of_mem hcall
    cases horderly.place hsplit with
    | alone halone => exact halone
  · intro withdrawal answer hcall
    obtain ⟨before, after, hsplit⟩ := List.append_of_mem hcall
    cases horderly.place hsplit with
    | alone halone => exact halone

end Cascade
end WithdrawalCascade
