import WithdrawalCascade.Json.Numeral
import WithdrawalCascade.Text.Hexadecimal

/-!
# Tokens of JSON text

A text is cut into tokens by one pass over its characters.  Where the text stops being JSON the
list of tokens ends with `broken`, so that a reader that stops earlier never learns of it, and one
that comes that far does.

A string may hold an escape of half a surrogate pair whose other half is missing.  Such a string
is a token like any other, since it can be passed over, but it has no value.
-/

namespace WithdrawalCascade

/-- A token of JSON text. -/
inductive Token where
  | openBrace
  | closeBrace
  | openBracket
  | closeBracket
  | comma
  | colon
  | null
  | bool (value : Bool)
  | number (numeral : String)
  /-- A string, without a value if a surrogate stands alone in it. -/
  | string (value : Option String)
  /-- Here the text stops being JSON. -/
  | broken
  deriving DecidableEq, Repr

namespace Token

/-- A part of a string: a character, or a sixteen-bit unit that was written as an escape. -/
inductive Piece where
  | char (c : Char)
  | unit (code : Nat)
  deriving DecidableEq, Repr

/-- The characters that pieces stand for.  A unit that leads a surrogate pair goes together with
the trailing unit right behind it; alone, neither stands for a character. -/
def charsOf? : List Piece → Option (List Char)
  | [] => some []
  | .char c :: rest => (charsOf? rest).map (c :: ·)
  | .unit lead :: .unit trail :: rest =>
    if 0xD800 ≤ lead ∧ lead < 0xDC00 ∧ 0xDC00 ≤ trail ∧ trail < 0xE000 then
      (charsOf? rest).map (Char.ofNat (0x10000 + (lead - 0xD800) * 0x400 + (trail - 0xDC00)) :: ·)
    else if 0xD800 ≤ lead ∧ lead < 0xE000 then none
    else (charsOf? (.unit trail :: rest)).map (Char.ofNat lead :: ·)
  | .unit code :: rest =>
    if 0xD800 ≤ code ∧ code < 0xE000 then none else (charsOf? rest).map (Char.ofNat code :: ·)

/-- The string token of pieces that were collected in reverse. -/
def ofPieces (reversed : List Piece) : Token :=
  .string ((charsOf? reversed.reverse).map String.ofList)

/-- The character that a one-letter escape stands for. -/
def escape? (c : Char) : Option Char :=
  match c with
  | '"' => some '"'
  | '\\' => some '\\'
  | '/' => some '/'
  | 'b' => some '\x08'
  | 'f' => some '\x0c'
  | 'n' => some '\n'
  | 'r' => some '\r'
  | 't' => some '\t'
  | _ => none

/-- What the pass over the characters is in the middle of. -/
inductive Stage where
  /-- Between two tokens. -/
  | between
  /-- Inside a word: the next character of it, those behind, and its token. -/
  | word (next : Char) (rest : List Char) (token : Token)
  /-- Inside a numeral; its characters so far in reverse. -/
  | numeral (progress : Numeral.Progress) (reversed : List Char)
  /-- Inside a string; its pieces so far in reverse. -/
  | string (reversed : List Piece)
  /-- Behind a backslash. -/
  | escape (reversed : List Piece)
  /-- Inside a four-digit escape; the digits still to come and the value so far. -/
  | code (reversed : List Piece) (missing : Nat) (value : Nat)

/-- What a character does: the tokens that it completes, and the stage behind it, `none` if the
text stops being JSON with it. -/
abbrev Step := List Token × Option Stage

/-- What a character does between two tokens. -/
def begin (c : Char) : Step :=
  match c with
  | ' ' | '\t' | '\n' | '\r' => ([], some .between)
  | '\x7b' => ([.openBrace], some .between)
  | '\x7d' => ([.closeBrace], some .between)
  | '[' => ([.openBracket], some .between)
  | ']' => ([.closeBracket], some .between)
  | ',' => ([.comma], some .between)
  | ':' => ([.colon], some .between)
  | '"' => ([], some (.string []))
  | 'n' => ([], some (.word 'u' ['l', 'l'] .null))
  | 't' => ([], some (.word 'r' ['u', 'e'] (.bool true)))
  | 'f' => ([], some (.word 'a' ['l', 's', 'e'] (.bool false)))
  | c => ([], (Numeral.start? c).map fun progress => .numeral progress [c])

/-- The numeral whose characters were collected in reverse. -/
def ofNumeral (reversed : List Char) : Token :=
  .number (String.ofList reversed.reverse)

/-- What a character does in each stage. -/
def step : Stage → Char → Step
  | .between, c => begin c
  | .word next rest token, c =>
    if c ≠ next then ([], none)
    else
      match rest with
      | [] => ([token], some .between)
      | next :: rest => ([], some (.word next rest token))
  | .numeral progress reversed, c =>
    match progress.next? c with
    | some progress => ([], some (.numeral progress (c :: reversed)))
    | none =>
      if progress.endsBefore c then (ofNumeral reversed :: (begin c).1, (begin c).2) else ([], none)
  | .string reversed, c =>
    if c = '"' then ([ofPieces reversed], some .between)
    else if c = '\\' then ([], some (.escape reversed))
    else if c.toNat < 0x20 then ([], none)
    else ([], some (.string (.char c :: reversed)))
  | .escape reversed, c =>
    if c = 'u' then ([], some (.code reversed 4 0))
    else ([], (escape? c).map fun meant => .string (.char meant :: reversed))
  | .code reversed missing value, c =>
    ([], (Hexadecimal.digitValue? c).map fun digit =>
      if missing ≤ 1 then .string (.unit (16 * value + digit) :: reversed)
      else .code reversed (missing - 1) (16 * value + digit))

/-- What the end of the text completes. -/
def atEnd : Stage → List Token
  | .between => []
  | .numeral progress reversed => if progress.isComplete then [ofNumeral reversed] else [.broken]
  | _ => [.broken]

/-- The tokens of the characters that are left, from a stage on. -/
def scan : Stage → List Char → List Token
  | stage, [] => atEnd stage
  | stage, c :: rest =>
    match step stage c with
    | (tokens, some stage) => tokens ++ scan stage rest
    | (tokens, none) => tokens ++ [.broken]

/-- The tokens of a text. -/
def ofText (text : String) : List Token :=
  scan .between text.toList

example : ofText "[01" = [.openBracket, .broken] := by rfl

example : ofText "1x" = [.number "1", .broken] := by rfl

example : ofText "\"\\ud83d\\ude00\\ud83d\"" = [.string none] := by rfl

end Token
end WithdrawalCascade
