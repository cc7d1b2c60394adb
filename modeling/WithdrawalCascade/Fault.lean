import WithdrawalCascade.EntityId.Basic

/-!
# Faults

Why an operation could not be carried out at all.  A withdrawal that was refused is no fault but an
outcome.
-/

namespace WithdrawalCascade

/-- Why an operation failed. -/
inductive Fault where
  /-- An entity that the caller refers to does not exist. -/
  | entityNotFound (entity : String) (id : EntityId)
  /-- The input breaks a rule of the domain. -/
  | validation (text : String)
  /-- A store or a service could not be reached or did not answer. -/
  | infrastructure (text : String)
  deriving DecidableEq, Repr

namespace Fault

/-- The text of a fault. -/
def message : Fault → String
  | entityNotFound entity id => entity ++ " not found: " ++ id.render
  | validation text => "validation error: " ++ text
  | infrastructure text => "infrastructure error: " ++ text

end Fault
end WithdrawalCascade
