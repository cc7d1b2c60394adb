/-!
# Hexadecimal digits

Digits to the base sixteen, written in lower case and read in either case.
-/

namespace WithdrawalCascade
namespace Hexadecimal

/-- The value of a digit. -/
def digitValue? (c : Char) : Option Nat :=
  if '0' ≤ c ∧ c ≤ '9' then some (c.toNat - '0'.toNat)
  else if 'a' ≤ c ∧ c ≤ 'f' then some (c.toNat - 'a'.toNat + 10)
  else if 'A' ≤ c ∧ c ≤ 'F' then some (c.toNat - 'A'.toNat + 10)
  else none

/-- Reads digits, the most significant first, behind a value that has been read already. -/
def valueFrom? : Nat → List Char → Option Nat
  | value, [] => some value
  | value, c :: rest => (digitValue? c).bind fun digit => valueFrom? (16 * value + digit) rest

/-- The last `count` digits of `n`, the most significant first. -/
def digits : Nat → Nat → List Char
  | 0, _ => []
  | count + 1, n => digits count (n / 16) ++ [Nat.digitChar (n % 16)]

end Hexadecimal
end WithdrawalCascade
