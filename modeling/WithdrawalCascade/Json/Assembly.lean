import WithdrawalCascade.Json.Document
import WithdrawalCascade.Json.Token

/-!
# From tokens to a document

The tokens are taken one at a time.  What has been opened and not yet closed waits on a stack, so
that one recursion over the tokens is enough, whatever the depth of the text.  When the text breaks,
what waits is closed as it is, and the document ends at that place.
-/

namespace WithdrawalCascade
namespace Document

/-- An array or object that is not closed yet, with what it holds so far in reverse.  The object
waits for the value of `key`. -/
inductive Open where
  | array (reversed : List Document)
  | object (reversed : List (Option String × Document)) (key : Option String)

/-- What may come next. -/
inductive Expected where
  /-- A value. -/
  | value
  /-- A value, or the bracket that closes an empty array. -/
  | valueOrBracket
  /-- A key, or the brace that closes an empty object. -/
  | keyOrBrace
  /-- A key, behind a comma. -/
  | key (reversed : List (Option String × Document))
  /-- The colon behind a key. -/
  | colon (reversed : List (Option String × Document)) (key : Option String)
  /-- What follows a value that has ended: a comma or a closing sign, or nothing. -/
  | after (value : Document)

/-- How far the document has been built. -/
structure Progress where
  /-- What waits to be closed, the innermost first. -/
  stack : List Open
  expected : Expected

/-- The value that a token is by itself. -/
def ofToken? : Token → Option Document
  | .null => some .null
  | .bool value => some (.bool value)
  | .number numeral => some (.number numeral)
  | .string value => some (.string value)
  | _ => none

/-- Where a value may come: the progress behind a token that is one or begins one. -/
def enter? (stack : List Open) : Token → Option Progress
  | .openBracket => some ⟨stack, .valueOrBracket⟩
  | .openBrace => some ⟨stack, .keyOrBrace⟩
  | token => (ofToken? token).map fun value => ⟨stack, .after value⟩

/-- The progress behind one more token, `none` if the token cannot stand there. -/
def advance? : Progress → Token → Option Progress
  | ⟨stack, .value⟩, token => enter? stack token
  | ⟨stack, .valueOrBracket⟩, .closeBracket => some ⟨stack, .after (.array .closed)⟩
  | ⟨stack, .valueOrBracket⟩, token => enter? (.array [] :: stack) token
  | ⟨stack, .keyOrBrace⟩, .closeBrace => some ⟨stack, .after (.object .closed)⟩
  | ⟨stack, .keyOrBrace⟩, .string key => some ⟨stack, .colon [] key⟩
  | ⟨stack, .key reversed⟩, .string key => some ⟨stack, .colon reversed key⟩
  | ⟨stack, .colon reversed key⟩, .colon => some ⟨.object reversed key :: stack, .value⟩
  | ⟨.array reversed :: stack, .after value⟩, .comma =>
    some ⟨.array (value :: reversed) :: stack, .value⟩
  | ⟨.array reversed :: stack, .after value⟩, .closeBracket =>
    some ⟨stack, .after (.array (Items.ofList .closed (reversed.reverse ++ [value])))⟩
  | ⟨.object reversed key :: stack, .after value⟩, .comma =>
    some ⟨stack, .key ((key, value) :: reversed)⟩
  | ⟨.object reversed key :: stack, .after value⟩, .closeBrace =>
    some ⟨stack, .after (.object (Members.ofList .closed (reversed.reverse ++ [(key, value)])))⟩
  | _, _ => none

/-- What is left of the innermost part when the text breaks. -/
def leftOver : Expected → Document
  | .value => .broken
  | .valueOrBracket => .array .broken
  | .keyOrBrace => .object .broken
  | .key reversed => .object (Members.ofList .broken reversed.reverse)
  | .colon reversed key => .object (Members.ofList .broken (reversed.reverse ++ [(key, .broken)]))
  | .after value => value

/-- The document that is left when the text breaks behind `last`: all that waits ends there. -/
def breakOff : List Open → Document → Document
  | [], last => last
  | .array reversed :: stack, last =>
    breakOff stack (.array (Items.ofList .broken (reversed.reverse ++ [last])))
  | .object reversed key :: stack, last =>
    breakOff stack (.object (Members.ofList .broken (reversed.reverse ++ [(key, last)])))

/-- Builds the first document of the tokens, and gives the tokens behind it. -/
def assemble : Progress → List Token → Document × List Token
  | ⟨[], .after value⟩, tokens => (value, tokens)
  | progress, [] => (breakOff progress.stack (leftOver progress.expected), [])
  | progress, token :: tokens =>
    match advance? progress token with
    | some progress => assemble progress tokens
    | none => (breakOff progress.stack (leftOver progress.expected), tokens)

/-- The document that a text begins with, and whether nothing but blanks is behind it. -/
def ofText (text : String) : Document × Bool :=
  let (document, rest) := assemble ⟨[], .value⟩ (Token.ofText text)
  (document, rest.isEmpty)

end Document
end WithdrawalCascade
