import WithdrawalCascade.Eligibility
import WithdrawalCascade.Failure

/-!
# The log of a cascade

What a cascade tells its operators as it goes.  Each event has a level, a text and named fields.
While a command is carried out every event also bears the span of that command, by which all that
was logged for it can be found.
-/

namespace WithdrawalCascade
namespace Log

/-- How grave an event is. -/
inductive Level where
  | debug
  | info
  | warn
  | error
  deriving DecidableEq, Repr

namespace Level

/-- The name of a level. -/
def name : Level → String
  | debug => "DEBUG"
  | info => "INFO"
  | warn => "WARN"
  | error => "ERROR"

end Level

/-- What became of the descendants in a completed cascade. -/
structure Tally where
  /-- How many were handed to a collaborator. -/
  attempted : Nat := 0
  /-- How many of these were withdrawn. -/
  completed : Nat := 0
  /-- How many of these were not. -/
  failed : Nat := 0
  /-- How many were left alone. -/
  skipped : Nat := 0
  deriving DecidableEq, Repr

/-- Something that a cascade tells. -/
inductive Event where
  /-- The tree that is about to be walked over, as text. -/
  | tree (rendering : String)
  /-- The cascade begins; how many nodes the tree has and how many descendants are eligible. -/
  | starting (context : Context) (nodes eligible : Nat)
  /-- A descendant is left alone. -/
  | skipping (kind : EntityKind) (id : EntityId) (reason : Eligibility)
  /-- A descendant is about to be withdrawn. -/
  | withdrawing (kind : EntityKind) (id : EntityId)
  /-- A booking in the tree does not exist, and the cascade stops. -/
  | missingBooking (id : EntityId)
  /-- A descendant could not be withdrawn. -/
  | failed (failure : Failure)
  /-- The cascade has come to its end. -/
  | complete (tally : Tally)
  deriving DecidableEq, Repr

/-- The value of a field of an event. -/
inductive FieldValue where
  | text (value : String)
  | count (value : Nat)
  deriving DecidableEq, Repr

namespace Event

/-- Where all events of a cascade are filed. -/
def target : String :=
  "placements_withdrawal::cascade"

/-- The level of an event. -/
def level : Event → Level
  | tree .. | skipping .. | withdrawing .. => .debug
  | starting .. | complete .. => .info
  | failed .. => .warn
  | missingBooking .. => .error

/-- The text of an event. -/
def message : Event → String
  | tree .. => "withdrawable tree"
  | starting .. => "cascading withdrawal to descendants"
  | skipping .. => "skipping descendant"
  | withdrawing .. => "withdrawing descendant"
  | missingBooking .. => "withdrawable tree references a booking that does not exist"
  | failed .. => "failed to withdraw descendant"
  | complete .. => "cascade complete"

/-- The fields of an event by name, besides its text. -/
def fields : Event → List (String × FieldValue)
  | tree rendering => [("tree", .text rendering)]
  | starting context nodes eligible =>
    [("triggering_entity_type", .text context.triggeringKind.name),
      ("triggering_entity_id", .text context.triggeringId.render),
      ("nodes", .count nodes),
      ("eligible", .count eligible)]
  | skipping kind id reason =>
    [("entity_type", .text kind.name), ("entity_id", .text id.render),
      ("reason", .text reason.name)]
  | withdrawing kind id => [("entity_type", .text kind.name), ("entity_id", .text id.render)]
  | missingBooking id => [("booking_id", .text id.render)]
  | failed failure =>
    [("entity_type", .text failure.entityKind.name),
      ("entity_id", .text failure.entityId.render),
      ("triggering_entity_type", .text failure.triggeringKind.name),
      ("triggering_entity_id", .text failure.triggeringId.render),
      ("failure", .text failure.kind.display)]
  | complete tally =>
    [("attempted", .count tally.attempted), ("completed", .count tally.completed),
      ("failed", .count tally.failed), ("skipped", .count tally.skipped)]

end Event

/-- What ties the events of one command together. -/
structure Span where
  /-- What the command is carried out by. -/
  name : String
  /-- The type of the command. -/
  commandType : String
  /-- The identifier that all records of the command share. -/
  correlationId : EntityId
  /-- The identifier of the entity whose withdrawal started the cascade. -/
  triggeringId : EntityId
  deriving DecidableEq, Repr

/-- An event together with the span it was told in, if any. -/
structure Record where
  event : Event
  span : Option Span := none
  deriving DecidableEq, Repr

/-- The records whose level has the given name. -/
def recordsAt (levelName : String) (records : List Record) : List Record :=
  records.filter fun record => record.event.level.name = levelName

end Log
end WithdrawalCascade
