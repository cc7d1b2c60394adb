import WithdrawalCascade.EntityId.Spelling
import WithdrawalCascade.Json.Assembly

/-!
# Reading forms from documents

A form is read from a document by one walk that takes each part as it comes and stops at the first
part that it has to refuse.  The same walk reads values and texts.  A text may give a field twice,
which is refused, and it is read no deeper than a given number of levels; apart from that, what is
accepted is the same for both.  What is said of a document that is refused differs in three places,
because the rest of a text is not known yet:

* an array that is longer than the record it stands for is too long in a value, while in a text the
  closing bracket is missed;
* a name in an object is looked at, in a text, before it is known whether the object ends there;
* where a name should be, a text is broken by anything but a quote or a brace, while a value of
  another kind is only not what was expected.
-/

namespace WithdrawalCascade

/-- Why a document is not a form of what was to be read. -/
inductive ReadError where
  /-- A record lacks a field that has no default. -/
  | missingField (field : String)
  /-- A field of a record is given twice. -/
  | duplicateField (field : String)
  /-- A name is none of the expected ones. -/
  | unknownName (name : String) (expected : List String)
  /-- A string is no spelling of an identifier. -/
  | notAnId
  /-- The text is not JSON, as far as it was read. -/
  | malformed
  /-- Well-formed JSON of another kind or length than expected. -/
  | unexpected
  deriving DecidableEq, Repr

namespace ReadError

/-- A name as messages show it. -/
def ticked (name : String) : String :=
  "`" ++ name ++ "`"

/-- The expected names in a message: one, two with an `or`, or a list. -/
def expectation : List String → String
  | [name] => "expected " ++ ticked name
  | [first, second] => "expected " ++ ticked first ++ " or " ++ ticked second
  | names => "expected one of " ++ String.intercalate ", " (names.map ticked)

/-- The text of an error. -/
def message : ReadError → String
  | .missingField field => "missing field " ++ ticked field
  | .duplicateField field => "duplicate field " ++ ticked field
  | .unknownName name expected => "unknown variant " ++ ticked name ++ ", " ++ expectation expected
  | .notAnId => "uuid"
  | .malformed => "syntax"
  | .unexpected => "invalid"

end ReadError

/-- What a document was made from. -/
inductive Medium where
  | value
  | text
  deriving DecidableEq, Repr

/-- What reads an `α`: from a medium, with so many levels left to enter, it takes a document. -/
abbrev Reader (α : Type) := Medium → Nat → Document → Except ReadError α

namespace Document

/-- The refusal of a document of the wrong kind.  A scalar is read before it is refused, so one
that is broken or has no value is refused as such; an array or object is not looked into. -/
def refusal : Document → ReadError
  | .broken | .string none => .malformed
  | .number numeral => if Numeral.isFinite numeral.toList then .unexpected else .malformed
  | _ => .unexpected

end Document

namespace Reader

variable {α σ : Type}

/-! ## Scalars -/

/-- Reads a truth value. -/
def bool : Reader Bool := fun _ _ document =>
  match document with
  | .bool value => .ok value
  | document => .error document.refusal

/-- Reads a string. -/
def string : Reader String := fun _ _ document =>
  match document with
  | .string (some value) => .ok value
  | document => .error document.refusal

/-- Reads a spelling of an identifier. -/
def entityId : Reader EntityId := fun medium levels document => do
  match EntityId.ofString? (← string medium levels document) with
  | some id => .ok id
  | none => .error .notAnId

/-- Reads `null` as absence, and anything else with `reader`. -/
def nullable (reader : Reader α) : Reader (Option α) := fun medium levels document =>
  match document with
  | .null => .ok none
  | document => some <$> reader medium levels document

/-! ## Names -/

/-- The entry of `table` under `name`. -/
def named (table : List (String × α)) (name : String) : Except ReadError α :=
  match table.lookup name with
  | some entry => .ok entry
  | none => .error (.unknownName name (table.map (·.1)))

/-- Reads a name from the members of an object, which is to hold the name as its one key and
`null` as the value of it. -/
def nameInObject (table : List (String × α)) : Medium → Members → Except ReadError α
  | .value, .more (some name) value .closed => do
    let entry ← named table name
    match value with
    | .null => .ok entry
    | _ => .error .unexpected
  | .value, _ => .error .unexpected
  | .text, .more (some name) value rest => do
    let entry ← named table name
    match value, rest with
    | .null, .closed => .ok entry
    | .null, _ => .error .malformed
    | value, _ => .error value.refusal
  | .text, _ => .error .malformed

/-- Reads one of the names of `table`: a string, or an object with the name as its one key.  Since
a name begins with a quote or a brace, any other token breaks a text. -/
def oneOf (table : List (String × α)) : Reader α := fun medium levels document =>
  match document with
  | .string (some name) => named table name
  | .object members =>
    if levels = 0 then .error .malformed else nameInObject table medium members
  | _ =>
    match medium with
    | .value => .error .unexpected
    | .text => .error .malformed

/-! ## Lists -/

/-- Reads every item with `item`, up to the closing bracket. -/
def items (item : Document → Except ReadError α) : Items → Except ReadError (List α)
  | .closed => .ok []
  | .broken => .error .malformed
  | .more document rest => do
    let first ← item document
    let others ← items item rest
    .ok (first :: others)

/-- Reads an array of what `item` reads one level below. -/
def list (levels : Nat) (item : Document → Except ReadError α) (document : Document) :
    Except ReadError (List α) :=
  match document with
  | .array documents => if levels = 0 then .error .malformed else items item documents
  | document => .error document.refusal

/-! ## Records -/

/-- What becomes of a record that does not give a field. -/
inductive Presence where
  /-- It is refused. -/
  | required
  /-- An object may leave the field out, which then is absent, but not an array. -/
  | nullable
  /-- An object or an array may leave the field out, which then has its default. -/
  | defaulted
  deriving DecidableEq, Repr

/-- A field of a record that is built up in `σ`: its name, whether it must be given, and how a
document for it is read into the record. -/
structure Field (σ : Type) where
  name : String
  presence : Presence
  read : Document → σ → Except ReadError σ

namespace Field

/-- The field that `read` reads and `set` puts into the record. -/
def of (name : String) (presence : Presence) (read : Document → Except ReadError α)
    (set : σ → α → σ) : Field σ :=
  ⟨name, presence, fun document record => (read document).map (set record)⟩

end Field

/-- The first field of `fields` that an object may not leave out. -/
def firstRequired? (fields : List (Field σ)) : Option (Field σ) :=
  fields.find? fun field => field.presence = .required

/-- Reads the members of an object.  Of all `fields` those in `missing` have not been met yet.  A
key that names no field is passed over with its value. -/
def members (fields : List (Field σ)) : List (Field σ) → σ → Members → Except ReadError σ
  | missing, record, .closed =>
    match firstRequired? missing with
    | some field => .error (.missingField field.name)
    | none => .ok record
  | _, _, .broken | _, _, .more none _ _ => .error .malformed
  | missing, record, .more (some key) value rest =>
    match fields.find? fun field => field.name = key with
    | none =>
      if value.isWhole then members fields missing record rest else .error .malformed
    | some field =>
      if missing.any fun field => field.name = key then do
        let record ← field.read value record
        members fields (missing.filter fun field => field.name ≠ key) record rest
      else .error (.duplicateField key)

/-- Reads the items of an array, one for each of `fields` in turn. -/
def fieldItems (medium : Medium) : List (Field σ) → σ → Items → Except ReadError σ
  | [], record, .closed => .ok record
  | [], _, .more _ _ =>
    match medium with
    | .value => .error .unexpected
    | .text => .error .malformed
  | field :: fields, record, .closed =>
    if field.presence = .defaulted then fieldItems medium fields record .closed
    else .error .unexpected
  | field :: fields, record, .more document rest => do
    let record ← field.read document record
    fieldItems medium fields record rest
  | _, _, .broken => .error .malformed

/-- Reads a record, on top of one that holds the defaults, from an object or an array.  The
`fields` read one level below. -/
def record (medium : Medium) (levels : Nat) (fields : List (Field σ)) (defaults : σ)
    (document : Document) : Except ReadError σ :=
  match document with
  | .object given =>
    if levels = 0 then .error .malformed else members fields fields defaults given
  | .array given =>
    if levels = 0 then .error .malformed else fieldItems medium fields defaults given
  | document => .error document.refusal

/-! ## Whole inputs -/

/-- How many arrays and objects a text may open inside one another on the way to what is read. -/
def textDepth : Nat := 127

/-- Reads a JSON value. -/
def ofJson (reader : Reader α) (json : Json) : Except ReadError α :=
  reader .value json.document.depth json.document

/-- Reads a JSON text, behind which nothing but blanks may stand, no deeper than `levels`. -/
def ofTextWithin (levels : Nat) (reader : Reader α) (text : String) : Except ReadError α := do
  let (document, isAll) := Document.ofText text
  let result ← reader .text levels document
  if isAll then .ok result else .error .malformed

/-- Reads a JSON text. -/
def ofText (reader : Reader α) (text : String) : Except ReadError α :=
  ofTextWithin textDepth reader text

end Reader
end WithdrawalCascade
