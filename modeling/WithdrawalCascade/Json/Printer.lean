import WithdrawalCascade.Json.Basic

/-!
# Compact JSON text

Values written without blanks, members in their order.  In a string the quote, the backslash and
the controls below U+0020 are escaped, and every other character stands for itself.
-/

namespace WithdrawalCascade
namespace Json

/-- How one character stands in a JSON string. -/
def escaped (c : Char) : List Char :=
  match c with
  | '"' => ['\\', '"']
  | '\\' => ['\\', '\\']
  | '\x08' => ['\\', 'b']
  | '\x0c' => ['\\', 'f']
  | '\n' => ['\\', 'n']
  | '\r' => ['\\', 'r']
  | '\t' => ['\\', 't']
  | c =>
    if c.toNat < 0x20 then
      ['\\', 'u', '0', '0', Nat.digitChar (c.toNat / 16), Nat.digitChar (c.toNat % 16)]
    else [c]

/-- A string between quotes. -/
def stringChars (text : String) : List Char :=
  '"' :: text.toList.flatMap escaped ++ ['"']

mutual

/-- The characters of a value. -/
def chars : Json → List Char
  | .null => "null".toList
  | .bool true => "true".toList
  | .bool false => "false".toList
  | .number numeral => numeral.toList
  | .string text => stringChars text
  | .array [] => ['[', ']']
  | .array (item :: items) => '[' :: chars item ++ itemsChars items
  | .object [] => ['\x7b', '\x7d']
  | .object ((key, value) :: members) =>
    '\x7b' :: stringChars key ++ ':' :: chars value ++ membersChars members

/-- The items after the first, each behind a comma, and the closing bracket. -/
def itemsChars : List Json → List Char
  | [] => [']']
  | item :: items => ',' :: chars item ++ itemsChars items

/-- The members after the first, each behind a comma, and the closing brace. -/
def membersChars : List (String × Json) → List Char
  | [] => ['\x7d']
  | (key, value) :: members =>
    ',' :: stringChars key ++ ':' :: chars value ++ membersChars members

end

/-- The compact text of a value. -/
def compact (value : Json) : String :=
  String.ofList value.chars

example : stringChars "\x01\n/\u00e9" = "\"\\u0001\\n/\u00e9\"".toList := by rfl

example : compact (.object [("a", .array [.null, .bool true])]) = "\x7b\"a\":[null,true]\x7d" := by
  rfl

end Json
end WithdrawalCascade
