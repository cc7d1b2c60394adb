import WithdrawalCascade.Json.Basic

/-!
# Documents

A document is what a reader of a form walks over.  It comes from a JSON value or from JSON text,
and it says more than a value does: the members of an object stand in the order of the text, with
every repetition, and where the text stops being JSON the document says so at that very place.  A
reader that refuses a document earlier therefore answers with its own refusal, and one that comes
to the place finds the text broken.

The lists of items and members have their own types, so that their ends can tell how the list
ended, and so that every function on documents is a plain recursion.
-/

namespace WithdrawalCascade

mutual

/-- JSON in the order in which it was written. -/
inductive Document where
  | null
  | bool (value : Bool)
  | number (numeral : String)
  /-- A string, without a value if a surrogate stands alone in it. -/
  | string (value : Option String)
  | array (items : Items)
  | object (members : Members)
  /-- Here the text stops being JSON. -/
  | broken

/-- The items of an array. -/
inductive Items where
  /-- The closing bracket. -/
  | closed
  /-- Neither a comma with an item behind it nor the closing bracket. -/
  | broken
  | more (item : Document) (rest : Items)

/-- The members of an object. -/
inductive Members where
  /-- The closing brace. -/
  | closed
  /-- Neither a member nor the closing brace. -/
  | broken
  /-- A member, whose key has no value if a surrogate stands alone in it. -/
  | more (key : Option String) (value : Document) (rest : Members)

end

namespace Items

/-- The items with `ending` behind them. -/
def ofList (ending : Items) : List Document → Items
  | [] => ending
  | item :: items => .more item (ofList ending items)

end Items

namespace Members

/-- The members with `ending` behind them. -/
def ofList (ending : Members) : List (Option String × Document) → Members
  | [] => ending
  | (key, value) :: members => .more key value (ofList ending members)

/-- Sets a member of an object whose keys ascend, in place of one that has the same key. -/
def insert (key : String) (value : Document) : Members → Members
  | .more (some other) held rest =>
    if key = other then .more (some key) value rest
    else if key < other then .more (some key) value (.more (some other) held rest)
    else .more (some other) held (insert key value rest)
  | ending => .more (some key) value ending

end Members

mutual

/-- Whether a document is JSON to its end.  A reader that passes over a value asks for no more: a
string without a value, a numeral beyond every range and any depth will do. -/
def Document.isWhole : Document → Bool
  | .array items => items.isWhole
  | .object members => members.isWhole
  | .broken => false
  | _ => true

/-- Whether all items are JSON to their end and the bracket is closed. -/
def Items.isWhole : Items → Bool
  | .closed => true
  | .broken => false
  | .more item rest => item.isWhole && rest.isWhole

/-- Whether all members are JSON to their end and the brace is closed. -/
def Members.isWhole : Members → Bool
  | .closed => true
  | .broken => false
  | .more _ value rest => value.isWhole && rest.isWhole

end

mutual

/-- How many arrays and objects lie inside one another at most. -/
def Document.depth : Document → Nat
  | .array items => items.depth + 1
  | .object members => members.depth + 1
  | _ => 0

/-- The depth of the deepest item. -/
def Items.depth : Items → Nat
  | .more item rest => max item.depth rest.depth
  | _ => 0

/-- The depth of the deepest value of a member. -/
def Members.depth : Members → Nat
  | .more _ value rest => max value.depth rest.depth
  | _ => 0

end

mutual

/-- The document of a value.  A value has no order of members: they are walked over by ascending
key, and of members with one key the last stands. -/
def Json.document : Json → Document
  | .null => .null
  | .bool value => .bool value
  | .number numeral => .number numeral
  | .string value => .string (some value)
  | .array items => .array (itemsOf items)
  | .object members => .object (membersOf .closed members)

/-- The items of an array value. -/
def Json.itemsOf : List Json → Items
  | [] => .closed
  | item :: items => .more item.document (itemsOf items)

/-- The members of an object value, set one after the other among those already there. -/
def Json.membersOf : Members → List (String × Json) → Members
  | sorted, [] => sorted
  | sorted, (key, value) :: members => membersOf (sorted.insert key value.document) members

end

end WithdrawalCascade
