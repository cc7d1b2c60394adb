import WithdrawalCascade.EntityId.Basic

/-!
# Spellings of an identifier

An identifier may be handed over in four forms: thirty-two hexadecimal digits, the hyphenated
form, the hyphenated form in braces, and the hyphenated form as a resource name.  Letters may be
in either case.  Nothing else is read, and nothing around the spelling is dropped.
-/

namespace WithdrawalCascade
namespace EntityId

/-- Takes the hyphens out of groups of the given sizes, where each group has exactly its size. -/
def unhyphenate? : List Nat → List Char → Option (List Char)
  | [], text => if text.isEmpty then some [] else none
  | [size], text => if text.length = size then some text else none
  | size :: sizes, text =>
    match text.drop size with
    | '-' :: rest => (unhyphenate? sizes rest).map (text.take size ++ ·)
    | _ => none

/-- Reads thirty-two digits. -/
def ofDigits? (text : List Char) : Option EntityId :=
  if text.length = 32 then (Hexadecimal.valueFrom? 0 text).map ofNat else none

/-- Reads the hyphenated form. -/
def ofHyphenated? (text : List Char) : Option EntityId :=
  (unhyphenate? groupSizes text).bind ofDigits?

/-- Reads the hyphenated form between braces. -/
def ofBraced? : List Char → Option EntityId
  | '\x7b' :: text =>
    if text.getLast? = some '\x7d' then ofHyphenated? text.dropLast else none
  | _ => none

/-- What stands before the hyphenated form in a resource name. -/
def resourceScheme : List Char :=
  "urn:uuid:".toList

/-- Reads a resource name. -/
def ofResourceName? (text : List Char) : Option EntityId :=
  if (text.take resourceScheme.length).map Char.toLower = resourceScheme then
    ofHyphenated? (text.drop resourceScheme.length)
  else none

/-- Reads any of the four spellings.  No text is a spelling in two of the forms. -/
def ofChars? (text : List Char) : Option EntityId :=
  (ofDigits? text).orElse fun _ =>
    (ofHyphenated? text).orElse fun _ =>
      (ofBraced? text).orElse fun _ => ofResourceName? text

/-- Reads any of the four spellings. -/
def ofString? (text : String) : Option EntityId :=
  ofChars? text.toList

example : ofString? "000000000000000000000000000000AB" = some (ofNat 0xAB) := by rfl

example : ofString? "urn:UUID:00000000-0000-0000-0000-0000000000aB" = some (ofNat 0xAB) := by rfl

example : ofString? "\x7b000000000000000000000000000000ab\x7d" = none := by rfl

end EntityId
end WithdrawalCascade
