/-!
# Blank characters and trimming

The characters that the Unicode property `White_Space` marks, as a table of code ranges, and the
removal of them at both ends of a text.  Characters of no width that lack the property, such as
U+200B, U+FEFF or U+180E, are not blank, and neither are the separators U+001C to U+001F.
-/

namespace WithdrawalCascade
namespace Text

/-- Whether the code of `c` lies in one of the `ranges`, ends included. -/
def inRanges (ranges : List (Nat × Nat)) (c : Char) : Bool :=
  ranges.any fun range => range.1 ≤ c.toNat && c.toNat ≤ range.2

/-- The code ranges of the property `White_Space`. -/
def blankRanges : List (Nat × Nat) :=
  [(0x09, 0x0D), (0x20, 0x20), (0x85, 0x85), (0xA0, 0xA0), (0x1680, 0x1680), (0x2000, 0x200A),
   (0x2028, 0x2029), (0x202F, 0x202F), (0x205F, 0x205F), (0x3000, 0x3000)]

/-- Whether `c` has the property `White_Space`. -/
def isBlank (c : Char) : Bool :=
  inRanges blankRanges c

/-- The characters without the blank ones at both ends. -/
def trim (cs : List Char) : List Char :=
  ((cs.dropWhile isBlank).reverse.dropWhile isBlank).reverse

/-- What core counts as white space is blank. -/
theorem isBlank_of_isWhitespace {c : Char} (h : c.isWhitespace) : isBlank c := by
  simp only [Char.isWhitespace, Bool.or_eq_true, decide_eq_true_eq] at h
  rcases h with ((rfl | rfl) | rfl) | rfl <;> rfl

example : trim "\u00a0 x y\u3000\u200b ".toList = "x y\u3000\u200b".toList := by rfl

end Text
end WithdrawalCascade
