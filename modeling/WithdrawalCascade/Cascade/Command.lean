import WithdrawalCascade.Cascade.Basic

/-!
# The command

The order to run a cascade.  All that is logged while it is carried out bears its span.
-/

namespace WithdrawalCascade

/-- The order to withdraw every eligible descendant of a root that has been withdrawn. -/
structure CascadeCommand where
  /-- The identifier that all records of the command share. -/
  correlationId : EntityId
  /-- The tree of the entity that has just been withdrawn. -/
  tree : Tree
  /-- Why it was withdrawn. -/
  context : Context

namespace CascadeCommand

/-- The type of the command. -/
def commandType : String :=
  "withdrawal.cascade"

/-- The span of a command. -/
def span (command : CascadeCommand) : Log.Span :=
  ⟨"handle_cascade_withdrawal", commandType, command.correlationId, command.context.triggeringId⟩

/-- Carries a command out. -/
def handle (reporting : Cascade.Reporting) (command : CascadeCommand) (config : Config) :
    Dialogue (Except Fault Unit) :=
  (Cascade.withdrawDescendants reporting command.tree command.context config).within command.span

end CascadeCommand
end WithdrawalCascade
