/-!
# The status of an entity

What the builder of a tree has found out about one entity: whether it can be withdrawn at all,
whether the user may withdraw it directly, and whether it stands in the way of the withdrawal of
everything above it.
-/

namespace WithdrawalCascade

/-- Why an entity blocks the withdrawal of its ancestors. -/
inductive BlockingReason where
  /-- An arrival is recorded in the accommodation system. -/
  | arrivalRecordedInCas1
  /-- An arrival is recorded in the case management system of probation. -/
  | arrivalRecordedInDelius
  deriving DecidableEq, Repr

namespace BlockingReason

/-- The name of a reason. -/
def name : BlockingReason → String
  | arrivalRecordedInCas1 => "ArrivalRecordedInCas1"
  | arrivalRecordedInDelius => "ArrivalRecordedInDelius"

/-- All reasons, in the order in which messages list them. -/
def all : List BlockingReason :=
  [arrivalRecordedInCas1, arrivalRecordedInDelius]

end BlockingReason

/-- The status of one entity in a withdrawable tree. -/
structure Status where
  /-- Whether the entity is in a state that can be withdrawn. -/
  withdrawable : Bool
  /-- Whether the user may withdraw the entity directly. -/
  mayDirectlyWithdraw : Bool
  /-- Whether the entity keeps itself and all its ancestors from being withdrawn automatically. -/
  blocksAncestors : Bool := false
  /-- Why it blocks; for information only. -/
  blockingReason : Option BlockingReason := none
  deriving DecidableEq, Repr

namespace Status

/-- The status of an entity that blocks nothing. -/
def new (withdrawable mayDirectlyWithdraw : Bool) : Status :=
  { withdrawable, mayDirectlyWithdraw }

/-- The status with a block on all ancestors for the given reason. -/
def blocking (status : Status) (reason : BlockingReason) : Status :=
  { status with blocksAncestors := true, blockingReason := some reason }

end Status
end WithdrawalCascade
