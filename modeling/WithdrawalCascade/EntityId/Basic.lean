import WithdrawalCascade.Text.Hexadecimal

/-!
# Entity identifiers

An entity is named by 128 bits.  On paper these are thirty-two lower-case hexadecimal digits,
the most significant first, hyphenated into groups of eight, four, four, four and twelve.
-/

namespace WithdrawalCascade

/-- The identifier of an application, a request for placement, a booking, a user or a command. -/
structure EntityId where
  /-- The value as a number of 128 bits. -/
  bits : BitVec 128
  deriving DecidableEq, Repr

namespace EntityId

/-- The identifier whose value is `n`, for an `n` of at most 128 bits. -/
def ofNat (n : Nat) : EntityId :=
  ⟨BitVec.ofNat 128 n⟩

/-- The value as a natural number. -/
def toNat (id : EntityId) : Nat :=
  id.bits.toNat

/-- The digits of an identifier without hyphens. -/
def digits (id : EntityId) : List Char :=
  Hexadecimal.digits 32 id.toNat

/-- How many digits each hyphenated group has. -/
def groupSizes : List Nat :=
  [8, 4, 4, 4, 12]

/-- Cuts `digits` into groups of the given sizes and sets a hyphen between each two. -/
def hyphenate : List Nat → List Char → List Char
  | [], _ => []
  | [size], digits => digits.take size
  | size :: sizes, digits => digits.take size ++ '-' :: hyphenate sizes (digits.drop size)

/-- The characters of the hyphenated form. -/
def hyphenated (id : EntityId) : List Char :=
  hyphenate groupSizes id.digits

/-- The hyphenated form. -/
def render (id : EntityId) : String :=
  String.ofList id.hyphenated

instance : ToString EntityId := ⟨render⟩

example : (ofNat 0xAB).render = "00000000-0000-0000-0000-0000000000ab" := by rfl

end EntityId
end WithdrawalCascade
