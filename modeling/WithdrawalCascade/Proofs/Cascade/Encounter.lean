import WithdrawalCascade.Cascade.Basic

/-!
# Encounters

What passes between a cascade and the collaborator of one descendant is an `Encounter`: one answer
for a request for placement of either kind, up to three replies for a booking, nothing for an
application.

An encounter does not depend on the policy.  The policy is looked at afterwards, in
`Encounter.failure?` and `Encounter.stops`, and nowhere else; that is what makes runs under
different policies comparable.

* `run_consult`: the calls of an encounter are all that happens in it, and it is of the kind of its
  node.
* `attempt_eq_consult`: an attempt is an encounter, followed by an alarm in the log where the
  cascade ends.
-/

namespace WithdrawalCascade

/-! ## 1.  Dialogues -/

namespace Dialogue

variable {σ α β γ : Type}

@[simp] theorem pure_bind (result : α) (next : α → Dialogue β) :
    (pure result : Dialogue α) >>= next = next result := rfl

@[simp] theorem bind_assoc (dialogue : Dialogue α) (next : α → Dialogue β)
    (last : β → Dialogue γ) :
    (dialogue >>= next) >>= last = dialogue >>= fun result => next result >>= last := by
  show (dialogue.bind next).bind last = dialogue.bind fun result => (next result).bind last
  induction dialogue with
  | done result => rfl
  | tell record rest ih => simp only [Dialogue.bind, ih]
  | ask call rest ih => simp only [Dialogue.bind, ih]

@[simp] theorem run_pure (world : World σ) (result : α) (state : σ) :
    (pure result : Dialogue α).run world state = ⟨result, [], state⟩ := rfl

@[simp] theorem run_event (world : World σ) (event : Log.Event) (state : σ) :
    (Dialogue.event event).run world state = ⟨(), [.told ⟨event, none⟩], state⟩ := rfl

/-- A dialogue in two parts is played part after part. -/
@[simp] theorem run_andThen (world : World σ) (dialogue : Dialogue α) (next : α → Dialogue β)
    (state : σ) :
    (dialogue >>= next).run world state =
      let first := dialogue.run world state
      let second := (next first.result).run world first.state
      ⟨second.result, first.transcript ++ second.transcript, second.state⟩ :=
  run_bind world dialogue next state

end Dialogue

namespace Cascade

variable {σ : Type}

/-! ## 2.  Encounters -/

/-- What passes between a cascade and the collaborator of one descendant. -/
inductive Encounter where
  /-- Nothing: an application has no collaborator. -/
  | idle
  /-- The withdrawal of a request for placement was answered. -/
  | request (answer : Except Fault (Outcome PlacementRequest))
  /-- The withdrawal of a further request for placement was answered. -/
  | furtherRequest (answer : Except Fault (Outcome PlacementApplication))
  /-- The look-up of a booking was not answered. -/
  | unsearched (fault : Fault)
  /-- The look-up of a booking found nothing. -/
  | absent
  /-- A booking was found, the clock was read, and the cancellation was answered. -/
  | found (booking : Booking) (now : Instant) (answer : Except Fault (Outcome Booking))

/-- Why an answer is no withdrawal, none where it is one. -/
def refusal? {α : Type} : Except Fault (Outcome α) → Option FailureKind
  | .ok (.success _) => none
  | .ok .unauthorised => some .unauthorised
  | .ok .notFound => some .notFound
  | .ok (.validation text) => some (.validation text)
  | .error fault => some (.infrastructure fault.message)

theorem failureOf?_eq_refusal? {α : Type} (answer : Except Fault (Outcome α)) :
    failureOf? answer = refusal? answer := by
  rcases answer with fault | outcome
  · rfl
  · cases outcome <;> rfl

namespace Encounter

/-- The kind of descendant that an encounter is about. -/
def kind : Encounter → EntityKind
  | idle => .application
  | request _ => .placementRequest
  | furtherRequest _ => .placementApplication
  | unsearched _ | absent | found .. => .booking

/-- The calls of an encounter about the descendant `id`, with their replies. -/
def exchanges (context : Context) (id : EntityId) : Encounter → Transcript
  | idle => []
  | request answer => [.exchange (.withdrawPlacementRequest (withdrawal id context)) answer]
  | furtherRequest answer =>
    [.exchange (.withdrawPlacementApplication (withdrawal id context)) answer]
  | unsearched fault => [.exchange (.findBooking id) (.error fault)]
  | absent => [.exchange (.findBooking id) (.ok none)]
  | found booking now answer =>
    [.exchange (.findBooking id) (.ok (some booking)), .exchange .now now,
      .exchange (.cancelBooking booking (cancellation now context) context) answer]

/-- The failure that an encounter ends in, none where there is nothing to report.  That a booking
does not exist is a failure only where the policy is to go on. -/
def failure? (policy : MissingBookingPolicy) : Encounter → Option FailureKind
  | idle => none
  | request answer => refusal? answer
  | furtherRequest answer => refusal? answer
  | unsearched fault => some (.infrastructure fault.message)
  | absent =>
    match policy with
    | .abort => none
    | .skip => some .notFound
  | found _ _ answer => refusal? answer

/-- Whether an encounter ends the cascade. -/
def stops (policy : MissingBookingPolicy) : Encounter → Bool
  | absent => policy = .abort
  | _ => false

/-- What the attempt that led to an encounter comes to. -/
def attempt (policy : MissingBookingPolicy) (encounter : Encounter) : Attempt :=
  if encounter.stops policy then .missing
  else
    match encounter.failure? policy with
    | none => .completed
    | some kind => .failed kind

/-- Tells the log when an encounter about the booking `id` ends the cascade. -/
def alarm (policy : MissingBookingPolicy) (id : EntityId) (encounter : Encounter) :
    Dialogue Unit :=
  if encounter.stops policy then Dialogue.event (.missingBooking id) else return ()

/-- What `alarm` tells. -/
def alarms (policy : MissingBookingPolicy) (id : EntityId) (encounter : Encounter) : Transcript :=
  if encounter.stops policy then [.told ⟨.missingBooking id, none⟩] else []

theorem run_alarm (world : World σ) (policy : MissingBookingPolicy) (id : EntityId)
    (encounter : Encounter) (state : σ) :
    (encounter.alarm policy id).run world state = ⟨(), encounter.alarms policy id, state⟩ := by
  cases hstops : encounter.stops policy <;> simp [alarm, alarms, hstops]

theorem stops_eq_true_iff {policy : MissingBookingPolicy} {encounter : Encounter} :
    encounter.stops policy = true ↔ encounter = .absent ∧ policy = .abort := by
  cases encounter <;> simp [stops]

theorem failure?_eq_none_of_stops {policy : MissingBookingPolicy} {encounter : Encounter}
    (h : encounter.stops policy = true) : encounter.failure? policy = none := by
  obtain ⟨rfl, rfl⟩ := stops_eq_true_iff.mp h
  rfl

theorem attempt_eq_completed_iff {policy : MissingBookingPolicy} {encounter : Encounter} :
    encounter.attempt policy = .completed ↔
      encounter.stops policy = false ∧ encounter.failure? policy = none := by
  cases hstops : encounter.stops policy <;> cases hfailure : encounter.failure? policy <;>
    simp [attempt, hstops, hfailure]

theorem attempt_eq_failed_iff {policy : MissingBookingPolicy} {encounter : Encounter}
    {kind : FailureKind} :
    encounter.attempt policy = .failed kind ↔
      encounter.stops policy = false ∧ encounter.failure? policy = some kind := by
  cases hstops : encounter.stops policy <;> cases hfailure : encounter.failure? policy <;>
    simp [attempt, hstops, hfailure]

theorem attempt_eq_missing_iff {policy : MissingBookingPolicy} {encounter : Encounter} :
    encounter.attempt policy = .missing ↔ encounter.stops policy = true := by
  cases hstops : encounter.stops policy <;> cases hfailure : encounter.failure? policy <;>
    simp [attempt, hstops, hfailure]

/-- The failures to report after an encounter with `node`, at most one. -/
def failures (policy : MissingBookingPolicy) (context : Context) (node : Node)
    (encounter : Encounter) : List Failure :=
  (encounter.failure? policy).toList.map fun kind =>
    ⟨node.kind, node.id, context.triggeringKind, context.triggeringId, kind⟩

end Encounter

/-- Goes on from the reply to the look-up of a booking. -/
def settle (context : Context) : Except Fault (Option Booking) → Dialogue Encounter
  | .error fault => return .unsearched fault
  | .ok none => return .absent
  | .ok (some booking) => do
    let now ← Dialogue.call .now
    let answer ← Dialogue.call (.cancelBooking booking (cancellation now context) context)
    return .found booking now answer

/-- Calls on the collaborator for the kind of `node`. -/
def consult (context : Context) (node : Node) : Dialogue Encounter :=
  match node.kind with
  | .application => return .idle
  | .placementRequest => do
    let answer ← Dialogue.call (.withdrawPlacementRequest (withdrawal node.id context))
    return .request answer
  | .placementApplication => do
    let answer ← Dialogue.call (.withdrawPlacementApplication (withdrawal node.id context))
    return .furtherRequest answer
  | .booking => do
    let reply ← Dialogue.call (.findBooking node.id)
    settle context reply

/-- A look-up with what follows it is an encounter over a booking. -/
theorem run_settle (world : World σ) (context : Context) (id : EntityId)
    (reply : Except Fault (Option Booking)) (state : σ) :
    ((settle context reply).run world state).result.kind = .booking ∧
      .exchange (.findBooking id) reply :: ((settle context reply).run world state).transcript =
        ((settle context reply).run world state).result.exchanges context id := by
  rcases reply with fault | booking?
  · exact ⟨rfl, rfl⟩
  · cases booking? with
    | none => exact ⟨rfl, rfl⟩
    | some booking => exact ⟨rfl, rfl⟩

/-- An encounter is of its node's kind, and its calls are all that happens in it. -/
theorem run_consult (world : World σ) (context : Context) (node : Node) (state : σ) :
    ((consult context node).run world state).result.kind = node.kind ∧
      ((consult context node).run world state).transcript =
        ((consult context node).run world state).result.exchanges context node.id := by
  obtain ⟨kind, id, status, children⟩ := node
  cases kind with
  | application => exact ⟨rfl, rfl⟩
  | placementRequest => exact ⟨rfl, rfl⟩
  | placementApplication => exact ⟨rfl, rfl⟩
  | booking => exact run_settle world context id _ _

/-- An attempt is an encounter, with an alarm in the log where it ends the cascade. -/
theorem attempt_eq_consult (policy : MissingBookingPolicy) (context : Context) (node : Node) :
    attempt policy context node = do
      Dialogue.event (.withdrawing node.kind node.id)
      let encounter ← consult context node
      encounter.alarm policy node.id
      return encounter.attempt policy := by
  obtain ⟨kind, id, status, children⟩ := node
  cases kind with
  | application => rfl
  | placementRequest =>
    simp only [attempt, consult, Attempt.ofAnswer, failureOf?_eq_refusal?]
    rfl
  | placementApplication =>
    simp only [attempt, consult, Attempt.ofAnswer, failureOf?_eq_refusal?]
    rfl
  | booking =>
    simp only [attempt, attemptBooking, consult, Dialogue.bind_assoc]
    refine congrArg _ (funext fun _ => congrArg _ (funext fun reply => ?_))
    rcases reply with fault | booking?
    · rfl
    · cases booking? with
      | none => cases policy <;> rfl
      | some booking =>
        simp only [Attempt.ofAnswer, failureOf?_eq_refusal?]
        rfl

end Cascade
end WithdrawalCascade
