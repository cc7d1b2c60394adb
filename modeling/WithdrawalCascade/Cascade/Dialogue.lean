import WithdrawalCascade.Entities
import WithdrawalCascade.Log

/-!
# Dialogues

A cascade does three things: it calls on someone and waits for the reply, it tells the log what it
does, and it ends.  A dialogue is a finite tree of these, with one branch for each reply that may
come.  Who answers is no part of it: a `World` replies to calls out of a state of its own, by
whatever rule, and `Dialogue.run` plays a dialogue in a world and writes down all that happened.
-/

namespace WithdrawalCascade

/-- A request to withdraw a request for placement of either kind.  Without an actor it is the
request of a cascade. -/
structure Withdrawal where
  id : EntityId
  actor : Option User
  reason : Option WithdrawalReason
  context : Context
  deriving DecidableEq, Repr

/-- A call on a collaborator, on the clock or on the reporter of failures. -/
inductive Call where
  | withdrawPlacementRequest (withdrawal : Withdrawal)
  | withdrawPlacementApplication (withdrawal : Withdrawal)
  | findBooking (id : EntityId)
  | now
  | cancelBooking (booking : Booking) (cancellation : Cancellation) (context : Context)
  | report (failure : Failure)
  deriving DecidableEq, Repr

/-- What a call is answered with. -/
abbrev Call.Reply : Call → Type
  | .withdrawPlacementRequest _ => Except Fault (Outcome PlacementRequest)
  | .withdrawPlacementApplication _ => Except Fault (Outcome PlacementApplication)
  | .findBooking _ => Except Fault (Option Booking)
  | .now => Instant
  | .cancelBooking .. => Except Fault (Outcome Booking)
  | .report _ => Unit

/-- A dialogue that ends with an `α`. -/
inductive Dialogue (α : Type) : Type where
  /-- The end. -/
  | done (result : α)
  /-- Tells the log something and goes on. -/
  | tell (record : Log.Record) (rest : Dialogue α)
  /-- Makes a call and goes on as the reply says. -/
  | ask (call : Call) (rest : call.Reply → Dialogue α)

namespace Dialogue

variable {α β : Type}

/-- Goes on with `next` where a dialogue ends. -/
def bind : Dialogue α → (α → Dialogue β) → Dialogue β
  | done result, next => next result
  | tell record rest, next => tell record (rest.bind next)
  | ask call rest, next => ask call fun reply => (rest reply).bind next

instance : Monad Dialogue where
  pure := done
  bind := bind

/-- Makes one call. -/
def call (call : Call) : Dialogue call.Reply :=
  ask call done

/-- Tells the log one event. -/
def event (event : Log.Event) : Dialogue Unit :=
  tell ⟨event, none⟩ (done ())

/-- The dialogue with every record told in `span`. -/
def within (span : Log.Span) : Dialogue α → Dialogue α
  | done result => done result
  | tell record rest => tell { record with span := some span } (rest.within span)
  | ask call rest => ask call fun reply => (rest reply).within span

/-- The dialogue so many times in a row, with the result of each time. -/
def times : Nat → Dialogue α → Dialogue (List α)
  | 0, _ => pure []
  | count + 1, dialogue => do
    let first ← dialogue
    let others ← times count dialogue
    return first :: others

end Dialogue

/-- Those who answer: to a call, in a state, they give a reply and a new state. -/
structure World (σ : Type) where
  answer : (call : Call) → σ → call.Reply × σ

/-- One thing that happened. -/
inductive Entry where
  /-- A call and the reply to it. -/
  | exchange (call : Call) (reply : call.Reply)
  /-- Something was told to the log. -/
  | told (record : Log.Record)

/-- All that happened, in order. -/
abbrev Transcript := List Entry

namespace Entry

/-- The call of an exchange. -/
def call? : Entry → Option Call
  | exchange call _ => some call
  | told _ => none

/-- The record of what was told. -/
def record? : Entry → Option Log.Record
  | exchange _ _ => none
  | told record => some record

/-- The entry with what was told put into `span`. -/
def within (span : Log.Span) : Entry → Entry
  | exchange call reply => exchange call reply
  | told record => told { record with span := some span }

end Entry

namespace Transcript

/-- The exchanges, without what was told. -/
def exchanges (transcript : Transcript) : List Entry :=
  transcript.filter fun entry => entry.call?.isSome

/-- The records that were told. -/
def records (transcript : Transcript) : List Log.Record :=
  transcript.filterMap Entry.record?

end Transcript

/-- What is left when a dialogue has been played. -/
structure Run (σ α : Type) where
  result : α
  transcript : Transcript
  state : σ

namespace Dialogue

variable {σ α β : Type}

/-- Plays a dialogue in a world, from a state on. -/
def run (world : World σ) : Dialogue α → σ → Run σ α
  | done result, state => ⟨result, [], state⟩
  | tell record rest, state =>
    let run := rest.run world state
    { run with transcript := .told record :: run.transcript }
  | ask call rest, state =>
    let answer := world.answer call state
    let run := (rest answer.1).run world answer.2
    { run with transcript := .exchange call answer.1 :: run.transcript }

@[simp] theorem run_done (world : World σ) (result : α) (state : σ) :
    (done result).run world state = ⟨result, [], state⟩ := rfl

/-- A dialogue in two parts is played part after part. -/
theorem run_bind (world : World σ) (dialogue : Dialogue α) (next : α → Dialogue β) (state : σ) :
    (dialogue.bind next).run world state =
      let first := dialogue.run world state
      let second := (next first.result).run world first.state
      ⟨second.result, first.transcript ++ second.transcript, second.state⟩ := by
  induction dialogue generalizing state with
  | done result => rfl
  | tell record rest ih => simp [bind, run, ih]
  | ask call rest ih => simp [bind, run, ih]

/-- A span changes what is told and nothing else. -/
theorem run_within (world : World σ) (span : Log.Span) (dialogue : Dialogue α) (state : σ) :
    (dialogue.within span).run world state =
      let plain := dialogue.run world state
      { plain with transcript := plain.transcript.map (Entry.within span) } := by
  induction dialogue generalizing state with
  | done result => rfl
  | tell record rest ih => simp [within, run, ih, Entry.within]
  | ask call rest ih => simp [within, run, ih, Entry.within]

end Dialogue
end WithdrawalCascade
