import WithdrawalCascade.Json.Assembly

/-!
# The value of a text

A document has a value if it is JSON to its end, every string in it has a value, and every numeral
is within range.  The members of an object keep the order of the text.  Readers of forms do not
take this way; it says what a text means by itself, and `HasDistinctKeys` is what makes the order
of its members immaterial.
-/

namespace WithdrawalCascade

mutual

/-- The value of a document. -/
def Document.json? : Document → Option Json
  | .null => some .null
  | .bool value => some (.bool value)
  | .number numeral =>
    if Numeral.isFinite numeral.toList then some (.number numeral) else none
  | .string value => value.map .string
  | .array items => items.json?.map .array
  | .object members => members.json?.map .object
  | .broken => none

/-- The values of all items. -/
def Items.json? : Items → Option (List Json)
  | .closed => some []
  | .broken => none
  | .more item rest => do return (← item.json?) :: (← rest.json?)

/-- The values of all members by key. -/
def Members.json? : Members → Option (List (String × Json))
  | .closed => some []
  | .broken => none
  | .more key value rest => do return (← key, ← value.json?) :: (← rest.json?)

end

namespace Json

/-- The value of a JSON text. -/
def ofText? (text : String) : Option Json :=
  match Document.ofText text with
  | (document, true) => document.json?
  | (_, false) => none

mutual

/-- Whether no object in a value gives a key twice. -/
def HasDistinctKeys : Json → Prop
  | .array items => ItemsHaveDistinctKeys items
  | .object members => (members.map (·.1)).Nodup ∧ MembersHaveDistinctKeys members
  | _ => True

/-- Whether no object in some items gives a key twice. -/
def ItemsHaveDistinctKeys : List Json → Prop
  | [] => True
  | item :: items => HasDistinctKeys item ∧ ItemsHaveDistinctKeys items

/-- Whether no object in the values of some members gives a key twice. -/
def MembersHaveDistinctKeys : List (String × Json) → Prop
  | [] => True
  | (_, value) :: members => HasDistinctKeys value ∧ MembersHaveDistinctKeys members

end

end Json
end WithdrawalCascade
