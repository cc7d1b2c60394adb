/-!
# Numerals of JSON

The shape of a numeral as a finite automaton, and the test whether a numeral can be held as a
double-precision number.  It is held as the product of two such numbers: one for its leading
digits, as many as fit into sixty-four bits, and one for the power of ten that they are short of
the value.  A numeral whose product is infinite is well formed, yet nothing can hold it.
-/

namespace WithdrawalCascade
namespace Numeral

/-- How far a numeral has been read. -/
inductive Progress where
  /-- A minus sign, with no digit yet. -/
  | minus
  /-- A zero that begins the integer part; no digit may follow it. -/
  | zero
  /-- An integer part that begins with another digit. -/
  | integer
  /-- The point, with no digit behind it yet. -/
  | point
  /-- Digits behind the point. -/
  | fraction
  /-- The mark of the exponent, with nothing behind it yet. -/
  | mark
  /-- The sign of the exponent, with no digit behind it yet. -/
  | sign
  /-- Digits of the exponent. -/
  | exponent
  deriving DecidableEq, Repr

/-- How a numeral begins. -/
def start? (c : Char) : Option Progress :=
  if c = '-' then some .minus
  else if c = '0' then some .zero
  else if c.isDigit then some .integer
  else none

/-- What `c` adds to a numeral read so far, `none` if it cannot stand there. -/
def Progress.next? (progress : Progress) (c : Char) : Option Progress :=
  match progress with
  | .minus => if c = '-' then none else start? c
  | .zero => if c = '.' then some .point else if c = 'e' ∨ c = 'E' then some .mark else none
  | .integer =>
    if c.isDigit then some .integer
    else if c = '.' then some .point
    else if c = 'e' ∨ c = 'E' then some .mark
    else none
  | .point => if c.isDigit then some .fraction else none
  | .fraction =>
    if c.isDigit then some .fraction else if c = 'e' ∨ c = 'E' then some .mark else none
  | .mark =>
    if c.isDigit then some .exponent else if c = '+' ∨ c = '-' then some .sign else none
  | .sign => if c.isDigit then some .exponent else none
  | .exponent => if c.isDigit then some .exponent else none

/-- Whether a numeral that ends before `c` may end there.  A zero is not followed by a digit. -/
def Progress.endsBefore (progress : Progress) (c : Char) : Bool :=
  match progress with
  | .zero => !c.isDigit
  | .integer | .fraction | .exponent => true
  | .minus | .point | .mark | .sign => false

/-- Whether a numeral may end with the text. -/
def Progress.isComplete : Progress → Bool
  | .zero | .integer | .fraction | .exponent => true
  | .minus | .point | .mark | .sign => false

/-- The value of a decimal digit. -/
def digitValue (c : Char) : Nat :=
  c.toNat - '0'.toNat

/-- The value of decimal digits. -/
def decimalValue (digits : List Char) : Nat :=
  digits.foldl (fun value c => 10 * value + digitValue c) 0

/-- The exponent written behind its mark. -/
def exponentValue : List Char → Int
  | '-' :: digits => -(decimalValue digits : Int)
  | '+' :: digits => decimalValue digits
  | digits => decimalValue digits

/-! ## Holding a numeral -/

/-- The greatest significand. -/
def greatestSignificand : Nat :=
  0xFFFFFFFFFFFFFFFF

/-- Appends digits to a significand up to the first that would make it too great.  The digits from
that one on come back with it. -/
def appendDigits : Nat → List Char → Nat × List Char
  | significand, [] => (significand, [])
  | significand, c :: rest =>
    let longer := 10 * significand + digitValue c
    if longer ≤ greatestSignificand then appendDigits longer rest else (significand, c :: rest)

/-- The significand of a numeral with the given digits before and behind the point, and the power
of ten that goes with it.  Digits of the integer part that do not fit each raise the power by one,
and digits of the fraction that fit each lower it by one. -/
def significand (integer fraction : List Char) : Nat × Int :=
  let (value, left) := appendDigits 0 integer
  let (value, dropped) := appendDigits value fraction
  (value, (left.length : Int) + dropped.length - fraction.length)

/-- The double-precision number nearest to `n`, of two the one with an even significand.  It has
fifty-three binary digits and is a natural number. -/
def nearestDouble (n : Nat) : Nat :=
  let unit := Nat.pow 2 (n.log2 + 1 - 53)
  let quotient := n / unit
  let remainder := n % unit
  if 2 * remainder < unit then quotient * unit
  else if unit < 2 * remainder then (quotient + 1) * unit
  else (quotient + quotient % 2) * unit

/-- Half a unit above the greatest finite double-precision number: a product from here on rounds
to infinity. -/
def infinityBound : Nat :=
  Nat.pow 2 1024 - Nat.pow 2 970

/-- Whether a significand and a power of ten have a finite product.  The powers that are held
themselves end with the three hundred and eighth; dividing by one never leaves the range. -/
def hasFiniteProduct (significand : Nat) (power : Int) : Bool :=
  if significand = 0 || power < 0 then true
  else if 308 < power then false
  else nearestDouble significand * nearestDouble (Nat.pow 10 power.toNat) < infinityBound

/-- Whether a numeral can be held. -/
def isFinite (numeral : List Char) : Bool :=
  let unsigned := numeral.dropWhile (· = '-')
  let digits := unsigned.takeWhile fun c => c ≠ 'e' && c ≠ 'E'
  let exponent := exponentValue ((unsigned.dropWhile fun c => c ≠ 'e' && c ≠ 'E').drop 1)
  let integer := digits.takeWhile (· ≠ '.')
  let fraction := (digits.dropWhile (· ≠ '.')).drop 1
  let (value, power) := significand integer fraction
  hasFiniteProduct value (power + exponent)

end Numeral
end WithdrawalCascade
