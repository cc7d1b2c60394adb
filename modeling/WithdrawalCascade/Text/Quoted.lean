import WithdrawalCascade.Text.Hidden

/-!
# Quoted text

The form in which a refused setting is shown to an operator: the text between double quotes, with
every character that a reader could miss or mistake spelled out.
-/

namespace WithdrawalCascade
namespace Text

/-- How one character stands between the quotes.  The quote, the backslash and the four controls
that have a short name follow a backslash; any other character that does not show is given by its
code in lower-case hexadecimal digits; all else stands for itself. -/
def quotedChar (c : Char) : List Char :=
  match c with
  | '\x00' => ['\\', '0']
  | '\t' => ['\\', 't']
  | '\r' => ['\\', 'r']
  | '\n' => ['\\', 'n']
  | '"' => ['\\', '"']
  | '\\' => ['\\', '\\']
  | c => if isHidden c then ['\\', 'u', '\x7b'] ++ Nat.toDigits 16 c.toNat ++ ['\x7d'] else [c]

/-- The text between double quotes. -/
def quoted (text : String) : String :=
  String.ofList ('"' :: text.toList.flatMap quotedChar ++ ['"'])

example : quoted "a\t\"b\u00e9" = "\"a\\t\\\"b\u00e9\"" := by decide +kernel

example : quotedChar '\u200b' = "\\u\x7b200b\x7d".toList := by decide +kernel

end Text
end WithdrawalCascade
