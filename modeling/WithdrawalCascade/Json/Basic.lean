/-!
# JSON values

A JSON value as the library hands it out.  The members of an object are kept in the order in which
they are to be written; a number is kept by its numeral, since no form of the library holds one.
-/

namespace WithdrawalCascade

/-- A JSON value. -/
inductive Json where
  | null
  | bool (value : Bool)
  | number (numeral : String)
  | string (value : String)
  | array (items : List Json)
  | object (members : List (String × Json))
  deriving Inhabited, Repr

namespace Json

/-- An optional part, `null` when it is not there. -/
def ofOption {α : Type} (form : α → Json) : Option α → Json
  | none => .null
  | some value => form value

end Json
end WithdrawalCascade
