import Mathlib.Data.List.Induction
import WithdrawalCascade.Proofs.StandIn.Keeping

/-!
# What stand-ins are told

Before a rehearsal the stand-ins are told how to answer, one instruction after the other.  Of this
they make tables that have the latest at the front and keep what it overrides.  Here it is said
from the instructions alone what a call is answered with (`Instruction.reply`): of what was told of
an entity, the last of each sort stands (`Instruction.lastFor`), and a fault stands against every
outcome, whether it was told before or after it.

* `Ensemble.faithful_to_instructions`: whatever the instructions and whatever the calls that follow,
  every call is answered by the instructions, and the stand-ins have kept the calls and nothing else.
-/

namespace WithdrawalCascade

/-! ## 1.  Calls in a row -/

/-- Makes calls, one after the other, whatever the replies. -/
def Dialogue.ofCalls : List Call → Dialogue Unit
  | [] => .done ()
  | call :: calls => .ask call fun _ => ofCalls calls

namespace Call

/-- The withdrawal of a request for placement that a call asks for. -/
def request? : Call → Option Withdrawal
  | .withdrawPlacementRequest withdrawal => some withdrawal
  | _ => none

/-- The withdrawal of a further request for placement that a call asks for. -/
def application? : Call → Option Withdrawal
  | .withdrawPlacementApplication withdrawal => some withdrawal
  | _ => none

/-- The identifier that a call looks up. -/
def lookup? : Call → Option EntityId
  | .findBooking id => some id
  | _ => none

/-- The cancellation that a call asks for, as it is to be kept. -/
def keptCancellation? : Call → Option StandIn.KeptCancellation
  | .cancelBooking booking cancellation context => some ⟨booking.id, cancellation, context⟩
  | _ => none

/-- The entity that a call asks something of a collaborator about. -/
def entity? : Call → Option EntityId
  | .withdrawPlacementRequest withdrawal => some withdrawal.id
  | .withdrawPlacementApplication withdrawal => some withdrawal.id
  | .findBooking id => some id
  | .cancelBooking booking _ _ => some booking.id
  | .now | .report _ => none

end Call

namespace StandIn

/-! ## 2.  Instructions -/

/-- One thing that the stand-ins are told. -/
inductive Instruction where
  /-- Withdrawals of the request `id` are answered with `outcome`. -/
  | requestOutcome (id : EntityId) (outcome : Outcome PlacementRequest)
  /-- Withdrawals of the request `id` cannot be answered, for the reason in `text`. -/
  | requestFault (id : EntityId) (text : String)
  /-- Withdrawals of the further request `id` are answered with `outcome`. -/
  | applicationOutcome (id : EntityId) (outcome : Outcome PlacementApplication)
  /-- There is a booking `id`, which has not been cancelled. -/
  | booking (id premisesId : EntityId)
  /-- Cancellations of the booking `id` are answered with `outcome`. -/
  | cancelOutcome (id : EntityId) (outcome : Outcome Booking)

namespace Instruction

/-- The entity that an instruction is about. -/
def id : Instruction → EntityId
  | requestOutcome id _ | requestFault id _ | applicationOutcome id _ | booking id _
  | cancelOutcome id _ => id

/-- The outcome that is told for a request. -/
def requestOutcome? : Instruction → Option (Outcome PlacementRequest)
  | requestOutcome _ outcome => some outcome
  | _ => none

/-- The text of the fault that is told for a request. -/
def requestFault? : Instruction → Option String
  | requestFault _ text => some text
  | _ => none

/-- The outcome that is told for a further request. -/
def applicationOutcome? : Instruction → Option (Outcome PlacementApplication)
  | applicationOutcome _ outcome => some outcome
  | _ => none

/-- The booking that is told of. -/
def booking? : Instruction → Option Booking
  | booking id premisesId => some ⟨id, premisesId, none⟩
  | _ => none

/-- The outcome that is told for the cancellation of a booking. -/
def cancelOutcome? : Instruction → Option (Outcome Booking)
  | cancelOutcome _ outcome => some outcome
  | _ => none

variable {β : Type} {told? : Instruction → Option β} {id : EntityId}

/-- What was told of `id` last, of the sort that `told?` reads off an instruction. -/
def lastFor (told? : Instruction → Option β) (id : EntityId) (instructions : List Instruction) :
    Option β :=
  ((instructions.filter fun instruction => instruction.id = id).filterMap told?).getLast?

/-- What a call is answered with, by the instructions that were given. -/
def reply (instructions : List Instruction) : (call : Call) → call.Reply
  | .withdrawPlacementRequest withdrawal =>
    match lastFor requestFault? withdrawal.id instructions with
    | some text => .error (.infrastructure text)
    | none => .ok ((lastFor requestOutcome? withdrawal.id instructions).getD
        (.success ⟨withdrawal.id, true⟩))
  | .withdrawPlacementApplication withdrawal =>
    .ok ((lastFor applicationOutcome? withdrawal.id instructions).getD
      (.success ⟨withdrawal.id, true⟩))
  | .findBooking id => .ok (lastFor booking? id instructions)
  | .now => ⟨0⟩
  | .cancelBooking held cancellation _ =>
    .ok ((lastFor cancelOutcome? held.id instructions).getD
      (.success { held with cancelledAt := some cancellation.cancelledAt }))
  | .report _ => ()

/-- Something was told last exactly if something was told. -/
theorem exists_lastFor_iff {instructions : List Instruction} :
    (∃ last, lastFor told? id instructions = some last) ↔
      ∃ instruction ∈ instructions, instruction.id = id ∧ ∃ what, told? instruction = some what := by
  constructor
  · rintro ⟨last, hlast⟩
    obtain ⟨instruction, hmem, htold⟩ := List.mem_filterMap.mp (List.mem_of_getLast? hlast)
    obtain ⟨hmem, hid⟩ := List.mem_filter.mp hmem
    exact ⟨instruction, hmem, of_decide_eq_true hid, last, htold⟩
  · rintro ⟨instruction, hmem, hid, what, htold⟩
    rw [← Option.isSome_iff_exists, lastFor, List.getLast?_isSome]
    have hfilter : instruction ∈ instructions.filter fun instruction => instruction.id = id :=
      List.mem_filter.mpr ⟨hmem, decide_eq_true hid⟩
    exact List.ne_nil_of_mem (List.mem_filterMap.mpr ⟨instruction, hfilter, htold⟩)

/-- What is told of other entities than that of a call changes nothing. -/
theorem lastFor_filter {call : Call} (hcall : call.entity? = some id)
    (instructions : List Instruction) :
    lastFor told? id (instructions.filter fun instruction => call.entity? = some instruction.id) =
      lastFor told? id instructions := by
  rw [lastFor, List.filter_filter, lastFor]
  refine congrArg (fun about : List Instruction => (about.filterMap told?).getLast?) ?_
  refine List.filter_congr fun instruction _ => ?_
  by_cases hid : instruction.id = id <;> simp [hcall, hid]

/-- **Only what is told of its entity counts** for a call. -/
theorem reply_filter (instructions : List Instruction) (call : Call) :
    reply (instructions.filter fun instruction => call.entity? = some instruction.id) call =
      reply instructions call := by
  cases call with
  | withdrawPlacementRequest withdrawal =>
    have hcall : (Call.withdrawPlacementRequest withdrawal).entity? = some withdrawal.id := rfl
    simp only [reply, lastFor_filter hcall]
  | withdrawPlacementApplication withdrawal =>
    have hcall : (Call.withdrawPlacementApplication withdrawal).entity? = some withdrawal.id := rfl
    simp only [reply, lastFor_filter hcall]
  | findBooking id =>
    have hcall : (Call.findBooking id).entity? = some id := rfl
    simp only [reply, lastFor_filter hcall]
  | now => rfl
  | cancelBooking held cancellation context =>
    have hcall : (Call.cancelBooking held cancellation context).entity? = some held.id := rfl
    simp only [reply, lastFor_filter hcall]
  | report failure => rfl

/-- A booking is found if one was told of. -/
theorem exists_reply_findBooking_iff {instructions : List Instruction} :
    (∃ found, reply instructions (.findBooking id) = .ok (some found)) ↔
      ∃ premisesId, .booking id premisesId ∈ instructions := by
  simp only [reply, Except.ok.injEq]
  rw [exists_lastFor_iff]
  constructor
  · rintro ⟨instruction, hmem, rfl, what, htold⟩
    cases instruction <;> cases htold
    exact ⟨_, hmem⟩
  · rintro ⟨premisesId, hmem⟩
    exact ⟨_, hmem, rfl, _, rfl⟩

/-- A fault stands, whatever outcomes are told before or after it. -/
theorem exists_reply_error_iff {instructions : List Instruction} {withdrawal : Withdrawal} :
    (∃ fault, reply instructions (.withdrawPlacementRequest withdrawal) = .error fault) ↔
      ∃ text, .requestFault withdrawal.id text ∈ instructions := by
  have hfault : (∃ fault, reply instructions (.withdrawPlacementRequest withdrawal) =
      .error fault) ↔ ∃ text, lastFor requestFault? withdrawal.id instructions = some text := by
    rw [reply]
    cases lastFor requestFault? withdrawal.id instructions <;> simp
  rw [hfault, exists_lastFor_iff]
  constructor
  · rintro ⟨instruction, hmem, hid, what, htold⟩
    cases instruction <;> cases htold
    exact ⟨what, hid ▸ hmem⟩
  · rintro ⟨text, hmem⟩
    exact ⟨_, hmem, rfl, text, rfl⟩

/-! ## 3.  Tables -/

/-- The table of what `told?` reads off instructions, the latest first. -/
def table (told? : Instruction → Option β) (instructions : List Instruction) :
    List (EntityId × β) :=
  (instructions.filterMap fun instruction =>
    (told? instruction).map fun what => (instruction.id, what)).reverse

theorem table_append (earlier later : List Instruction) :
    table told? (earlier ++ later) = table told? later ++ table told? earlier := by
  rw [table, List.filterMap_append, List.reverse_append]
  rfl

theorem lastFor_append (earlier later : List Instruction) :
    lastFor told? id (earlier ++ later) =
      (lastFor told? id later).or (lastFor told? id earlier) := by
  rw [lastFor, List.filter_append, List.filterMap_append, List.getLast?_append]
  rfl

/-- **A table has the last at its first place.** -/
theorem lookup_table (instructions : List Instruction) :
    (table told? instructions).lookup id = lastFor told? id instructions := by
  induction instructions using List.reverseRecOn with
  | nil => rfl
  | append_singleton instructions last ih =>
    have hlast : (table told? [last]).lookup id = lastFor told? id [last] := by
      by_cases hid : last.id = id
      · cases htold : told? last <;> simp [table, lastFor, htold, hid]
      · cases htold : told? last <;> simp [table, lastFor, htold, hid, Ne.symm hid]
    rw [table_append, lastFor_append, List.lookup_append, hlast, ih]

end Instruction

namespace Ensemble

/-- The ensemble that has been told one thing more. -/
def follow (ensemble : Ensemble) : Instruction → Ensemble
  | .requestOutcome id outcome =>
    { ensemble with requests := ensemble.requests.withOutcome id outcome }
  | .requestFault id text => { ensemble with requests := ensemble.requests.withFault id text }
  | .applicationOutcome id outcome =>
    { ensemble with applications := ensemble.applications.withOutcome id outcome }
  | .booking id premisesId =>
    { ensemble with bookings := ensemble.bookings.withBooking id premisesId }
  | .cancelOutcome id outcome =>
    { ensemble with bookings := ensemble.bookings.withCancelOutcome id outcome }

/-- The ensemble that has been told all `instructions`, the first one first. -/
def instructed (instructions : List Instruction) : Ensemble :=
  instructions.foldl follow {}

/-- Each instruction goes into one table. -/
theorem instructed_eq (instructions : List Instruction) :
    instructed instructions =
      { requests :=
          { outcomes := Instruction.table Instruction.requestOutcome? instructions
            faults := Instruction.table Instruction.requestFault? instructions }
        applications :=
          { outcomes := Instruction.table Instruction.applicationOutcome? instructions }
        bookings :=
          { known := Instruction.table Instruction.booking? instructions
            cancelOutcomes := Instruction.table Instruction.cancelOutcome? instructions } } := by
  induction instructions using List.reverseRecOn with
  | nil => rfl
  | append_singleton instructions last ih =>
    have hlast : instructed (instructions ++ [last]) = (instructed instructions).follow last :=
      List.foldl_append
    rw [hlast, ih]
    simp only [Instruction.table_append]
    cases last <;> rfl

/-! ## 4.  Answers -/

/-- An ensemble that has got no call answers by its instructions. -/
theorem answer_instructed (instructions : List Instruction) (call : Call) :
    (world.answer call (instructed instructions)).1 = Instruction.reply instructions call := by
  cases call with
  | withdrawPlacementRequest withdrawal =>
    show (instructed instructions).requests.reply withdrawal.id ⟨withdrawal.id, true⟩ = _
    rw [instructed_eq, Withdrawer.reply, Instruction.lookup_table, Instruction.lookup_table]
    rfl
  | withdrawPlacementApplication withdrawal =>
    show (instructed instructions).applications.reply withdrawal.id ⟨withdrawal.id, true⟩ = _
    rw [instructed_eq, Withdrawer.reply, Instruction.lookup_table]
    rfl
  | findBooking id =>
    rw [instructed_eq]
    exact congrArg Except.ok (Instruction.lookup_table instructions)
  | now =>
    rw [instructed_eq]
    rfl
  | cancelBooking booking cancellation context =>
    rw [instructed_eq]
    show Except.ok (Bookings.cancelReply _ booking cancellation) = _
    rw [Bookings.cancelReply, Instruction.lookup_table]
    rfl
  | report failure => rfl

/-- Calls in a row are answered as each of them would have been at the start. -/
theorem transcript_ofCalls {start reached : Ensemble} (h : world.Reaches start reached)
    (calls : List Call) :
    ((Dialogue.ofCalls calls).run world reached).transcript =
      calls.map fun call => .exchange call (world.answer call start).1 := by
  induction calls generalizing reached with
  | nil => rfl
  | cons call calls ih =>
    rw [List.map_cons, ← ih (h.answer call), ← answer_of_reaches h call]
    rfl

theorem calls_exchanges (calls : List Call) (replies : (call : Call) → call.Reply) :
    Transcript.calls (calls.map fun call => .exchange call (replies call)) = calls := by
  rw [Transcript.calls, List.filterMap_map]
  exact List.filterMap_some

/-- What calls leave behind, kind by kind. -/
theorem Kept.ofCalls_eq (calls : List Call) :
    Kept.ofCalls true calls =
      ⟨calls.filterMap Call.request?, calls.filterMap Call.application?,
        calls.filterMap Call.lookup?, calls.filterMap Call.keptCancellation?,
        calls.filterMap Call.report?⟩ := by
  induction calls with
  | nil => rfl
  | cons call calls ih =>
    rw [ofCalls, ih]
    cases call <;> rfl

/-- An ensemble is told some instructions and then gets some calls.  Every call is answered by the
instructions, whatever calls came before it, and of the instructions only those count that are about
the entity of the call.  What the stand-ins have kept in the end are the calls of each kind, in
order, with all that was given in them, no matter how they were answered.  A look-up finds the
bookings that were told of and no others, and the withdrawal of a request cannot be answered exactly
if a fault was told for it at any time. -/
theorem faithful_to_instructions (instructions : List Instruction) (calls : List Call) :
    ((Dialogue.ofCalls calls).run world (instructed instructions)).transcript =
        calls.map (fun call => .exchange call (Instruction.reply instructions call)) ∧
      ((Dialogue.ofCalls calls).run world (instructed instructions)).state.kept =
        ⟨calls.filterMap Call.request?, calls.filterMap Call.application?,
          calls.filterMap Call.lookup?, calls.filterMap Call.keptCancellation?,
          calls.filterMap Call.report?⟩ ∧
      (∀ call, Instruction.reply instructions call =
        Instruction.reply (instructions.filter fun instruction =>
          call.entity? = some instruction.id) call) ∧
      (∀ id, (∃ found, Instruction.reply instructions (.findBooking id) = .ok (some found)) ↔
        ∃ premisesId, .booking id premisesId ∈ instructions) ∧
      ∀ withdrawal, (∃ fault, Instruction.reply instructions
          (.withdrawPlacementRequest withdrawal) = .error fault) ↔
        ∃ text, .requestFault withdrawal.id text ∈ instructions := by
  have htranscript : ((Dialogue.ofCalls calls).run world (instructed instructions)).transcript =
      calls.map fun call => .exchange call (Instruction.reply instructions call) := by
    rw [transcript_ofCalls .start]
    simp only [answer_instructed]
  have hkept := kept_run (Dialogue.ofCalls calls) (instructed instructions)
  rw [htranscript, calls_exchanges] at hkept
  refine ⟨htranscript, ?_, fun call => (Instruction.reply_filter instructions call).symm,
    fun id => Instruction.exists_reply_findBooking_iff,
    fun withdrawal => Instruction.exists_reply_error_iff⟩
  rw [hkept, instructed_eq]
  exact Kept.ofCalls_eq calls

end Ensemble
end StandIn
end WithdrawalCascade
