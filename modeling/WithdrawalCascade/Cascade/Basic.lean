import WithdrawalCascade.Cascade.Dialogue
import WithdrawalCascade.Policy
import WithdrawalCascade.Tree.Rendering

/-!
# The cascade

The root of the tree has been withdrawn already.  Its descendants are taken one at a time, in
pre-order: what is not eligible is left alone, and what is eligible is handed to the collaborator
for its kind.  Whatever comes of one descendant, the next one is taken; a failure is reported and
nothing is undone.  Only a booking that does not exist can end the cascade early, where the
configuration says so.
-/

namespace WithdrawalCascade
namespace Cascade

/-- How failures are reported: to the reporter alone, or with a warning in the log besides. -/
inductive Reporting where
  | plain
  | logged
  deriving DecidableEq, Repr

/-- Reports a failure. -/
def report (reporting : Reporting) (failure : Failure) : Dialogue Unit := do
  Dialogue.call (.report failure)
  match reporting with
  | .plain => return ()
  | .logged => Dialogue.event (.failed failure)

/-- What came of the attempt to withdraw one descendant. -/
inductive Attempt where
  /-- It was withdrawn, or there was nothing to do. -/
  | completed
  /-- It was not withdrawn, and the failure is to be reported. -/
  | failed (kind : FailureKind)
  /-- It is a booking that does not exist, and the cascade is to stop. -/
  | missing
  deriving DecidableEq, Repr

/-- The attempt that the answer of a collaborator amounts to. -/
def Attempt.ofAnswer {α : Type} (answer : Except Fault (Outcome α)) : Attempt :=
  match failureOf? answer with
  | none => .completed
  | some kind => .failed kind

/-- Withdraws a request for placement of either kind on behalf of a cascade. -/
def withdrawal (id : EntityId) (context : Context) : Withdrawal :=
  ⟨id, none, none, context⟩

/-- What a booking that was found is cancelled with. -/
def cancellation (now : Instant) (context : Context) : Cancellation :=
  ⟨now, none, context.cancellationNotes⟩

/-- Looks a booking up and cancels what was found. -/
def attemptBooking (policy : MissingBookingPolicy) (context : Context) (id : EntityId) :
    Dialogue Attempt := do
  match ← Dialogue.call (.findBooking id) with
  | .error fault => return .failed (FailureKind.ofFault fault)
  | .ok none =>
    match policy with
    | .abort => do
      Dialogue.event (.missingBooking id)
      return .missing
    | .skip => return .failed .notFound
  | .ok (some booking) => do
    let now ← Dialogue.call .now
    let answer ← Dialogue.call (.cancelBooking booking (cancellation now context) context)
    return Attempt.ofAnswer answer

/-- Hands one eligible descendant to the collaborator for its kind.  An application has none, since
it only ever is a root. -/
def attempt (policy : MissingBookingPolicy) (context : Context) (node : Node) :
    Dialogue Attempt := do
  Dialogue.event (.withdrawing node.kind node.id)
  match node.kind with
  | .application => return .completed
  | .placementRequest =>
    let answer ← Dialogue.call (.withdrawPlacementRequest (withdrawal node.id context))
    return Attempt.ofAnswer answer
  | .placementApplication =>
    let answer ← Dialogue.call (.withdrawPlacementApplication (withdrawal node.id context))
    return Attempt.ofAnswer answer
  | .booking => attemptBooking policy context node.id

/-- The tally with one more descendant left alone. -/
def skipped (tally : Log.Tally) : Log.Tally :=
  { tally with skipped := tally.skipped + 1 }

/-- The tally with one more descendant withdrawn. -/
def completed (tally : Log.Tally) : Log.Tally :=
  { tally with attempted := tally.attempted + 1, completed := tally.completed + 1 }

/-- The tally with one more descendant that was not withdrawn. -/
def failed (tally : Log.Tally) : Log.Tally :=
  { tally with attempted := tally.attempted + 1, failed := tally.failed + 1 }

/-- Takes assessed descendants one after the other, on top of a tally.  The result is the tally of
all of them, or the fault of the booking at which the cascade stopped. -/
def visit (reporting : Reporting) (policy : MissingBookingPolicy) (context : Context) :
    Log.Tally → List (Node × Eligibility) → Dialogue (Except Fault Log.Tally)
  | tally, [] => return .ok tally
  | tally, (node, .eligible) :: rest => do
    match ← attempt policy context node with
    | .completed => visit reporting policy context (completed tally) rest
    | .failed kind =>
      report reporting (Failure.of node context kind)
      visit reporting policy context (failed tally) rest
    | .missing => return .error (.entityNotFound "booking" node.id)
  | tally, (node, reason) :: rest => do
    Dialogue.event (.skipping node.kind node.id reason)
    visit reporting policy context (skipped tally) rest

/-- Withdraws every eligible proper descendant of the root of `tree`. -/
def withdrawDescendants (reporting : Reporting) (tree : Tree) (context : Context)
    (config : Config) : Dialogue (Except Fault Unit) := do
  Dialogue.event (.tree tree.render)
  let assessed := tree.root.assessDescendants tree.blocking
  let eligible := assessed.countP fun assessed => assessed.2 = .eligible
  Dialogue.event (.starting context tree.nodeCount eligible)
  match ← visit reporting config.onMissingBooking context {} assessed with
  | .error fault => return .error fault
  | .ok tally =>
    Dialogue.event (.complete tally)
    return .ok ()

end Cascade
end WithdrawalCascade
