import WithdrawalCascade.Json.Printer
import WithdrawalCascade.Proofs.EntityId
import WithdrawalCascade.Proofs.Json.Denotes

/-!
# Compact text is read as what was written

Reading a text goes through its tokens, which are put together to a document with the help of a
stack.  For the compact text of a value both passes can be followed: the scanner gives the tokens of
the value, whatever comes behind them (`Token.scan_chars`), and the assembler puts the tokens
together to the value again, whatever waits on the stack (`Document.assemble_tokens`).

So the value of the compact text is the value that was written (`Json.ofText?_compact`), and no two
values have one text.  All is said of values without numbers, since that is what forms are: a
`Json.number` may hold any string for its numeral.
-/

namespace WithdrawalCascade

/-! ## 1.  Values without numbers -/

namespace Json

mutual

/-- Whether there is no number in a value. -/
def HasNoNumber : Json → Prop
  | .number _ => False
  | .array items => ItemsHaveNoNumber items
  | .object members => MembersHaveNoNumber members
  | _ => True

/-- Whether there is no number in some items. -/
def ItemsHaveNoNumber : List Json → Prop
  | [] => True
  | item :: items => HasNoNumber item ∧ ItemsHaveNoNumber items

/-- Whether there is no number in the values of some members. -/
def MembersHaveNoNumber : List (String × Json) → Prop
  | [] => True
  | (_, value) :: members => HasNoNumber value ∧ MembersHaveNoNumber members

end

mutual

/-- The tokens of a value. -/
def tokens : Json → List Token
  | .null => [.null]
  | .bool value => [.bool value]
  | .number numeral => [.number numeral]
  | .string text => [.string (some text)]
  | .array [] => [.openBracket, .closeBracket]
  | .array (item :: items) => .openBracket :: tokens item ++ itemsTokens items
  | .object [] => [.openBrace, .closeBrace]
  | .object ((key, value) :: members) =>
    .openBrace :: .string (some key) :: .colon :: tokens value ++ membersTokens members

/-- The tokens of the items after the first, and the closing bracket. -/
def itemsTokens : List Json → List Token
  | [] => [.closeBracket]
  | item :: items => .comma :: tokens item ++ itemsTokens items

/-- The tokens of the members after the first, and the closing brace. -/
def membersTokens : List (String × Json) → List Token
  | [] => [.closeBrace]
  | (key, value) :: members =>
    .comma :: .string (some key) :: .colon :: tokens value ++ membersTokens members

end

mutual

/-- The document of a value as it is written, with the members of objects in their order. -/
def written : Json → Document
  | .null => .null
  | .bool value => .bool value
  | .number numeral => .number numeral
  | .string text => .string (some text)
  | .array items => .array (Items.ofList .closed (writtenItems items))
  | .object members => .object (Members.ofList .closed (writtenMembers members))

/-- The documents of some items. -/
def writtenItems : List Json → List Document
  | [] => []
  | item :: items => written item :: writtenItems items

/-- The documents of some members by key. -/
def writtenMembers : List (String × Json) → List (Option String × Document)
  | [] => []
  | (key, value) :: members => (some key, written value) :: writtenMembers members

end

end Json

/-! ## 2.  Strings -/

namespace Token

/-- The part of a string as which a character is read back.  A control without a short escape comes
back as a unit. -/
def pieceOf (c : Char) : Piece :=
  if c.toNat < 0x20 ∧ c ∉ ['\x08', '\x0c', '\n', '\r', '\t'] then .unit c.toNat else .char c

/-- An escaped character is read as one part. -/
theorem scan_escaped (c : Char) (reversed : List Piece) (rest : List Char) :
    scan (.string reversed) (Json.escaped c ++ rest) =
      scan (.string (pieceOf c :: reversed)) rest := by
  fun_cases Json.escaped c with
  | case8 c hquote hslash hbackspace hfeed hnewline hreturn htab hcontrol =>
    have hzero : Hexadecimal.digitValue? '0' = some 0 := rfl
    have hfirst := Hexadecimal.digitValue?_digitChar (show c.toNat / 16 < 16 by omega)
    have hsecond := Hexadecimal.digitValue?_digitChar (Nat.mod_lt c.toNat (show 16 > 0 by decide))
    have hpiece : pieceOf c = .unit c.toNat := by
      have hrare : c ∉ ['\x08', '\x0c', '\n', '\r', '\t'] := by
        simpa using ⟨hbackspace, hfeed, hnewline, hreturn, htab⟩
      rw [pieceOf, if_pos ⟨hcontrol, hrare⟩]
    simp [scan, step, hzero, hfirst, hsecond, hpiece, Nat.div_add_mod]
  | case9 c hquote hslash hbackspace hfeed hnewline hreturn htab hcontrol =>
    have hpiece : pieceOf c = .char c := by
      rw [pieceOf, if_neg fun h => hcontrol h.1]
    simp [scan, step, hpiece, if_neg hquote, if_neg hslash, hcontrol]
  | _ => simp [scan, step, escape?, pieceOf]

/-- A unit that is no half of a surrogate pair stands for a character by itself. -/
theorem charsOf?_unit {code : Nat} (h : code < 0xD800) (pieces : List Piece) :
    charsOf? (.unit code :: pieces) = (charsOf? pieces).map (Char.ofNat code :: ·) := by
  have hlow : ¬ 0xD800 ≤ code := Nat.not_le.mpr h
  rcases pieces with _ | ⟨_ | _, _⟩ <;> simp [charsOf?, hlow]

/-- Parts that were read back stand for the characters. -/
theorem charsOf?_map_pieceOf (text : List Char) : charsOf? (text.map pieceOf) = some text := by
  induction text with
  | nil => rfl
  | cons c text ih =>
    rw [List.map_cons]
    by_cases hunit : c.toNat < 0x20 ∧ c ∉ ['\x08', '\x0c', '\n', '\r', '\t']
    · rw [pieceOf, if_pos hunit, charsOf?_unit (Nat.lt_trans hunit.1 (by decide)), ih,
        Char.ofNat_toNat]
      rfl
    · rw [pieceOf, if_neg hunit, charsOf?, ih]
      rfl

/-- **A string is one token.** -/
theorem scan_stringChars (text : String) (rest : List Char) :
    scan .between (Json.stringChars text ++ rest) = .string (some text) :: scan .between rest := by
  -- The pieces are collected in reverse, so the induction is for any that have been read before.
  have hbody : ∀ (characters : List Char) (reversed : List Piece),
      scan (.string reversed) (characters.flatMap Json.escaped ++ '"' :: rest) =
        ofPieces ((characters.map pieceOf).reverse ++ reversed) :: scan .between rest := by
    intro characters
    induction characters with
    | nil =>
      intro reversed
      simp [scan, step]
    | cons c characters ih =>
      intro reversed
      rw [List.flatMap_cons, List.append_assoc, scan_escaped, ih, List.map_cons, List.reverse_cons,
        List.append_assoc, List.singleton_append]
  have hpieces : ofPieces ((text.toList.map pieceOf).reverse ++ []) = .string (some text) := by
    rw [List.append_nil, ofPieces, List.reverse_reverse, charsOf?_map_pieceOf, Option.map_some,
      String.ofList_toList]
  have hopen : Json.stringChars text ++ rest =
      '"' :: (text.toList.flatMap Json.escaped ++ '"' :: rest) := by
    simp [Json.stringChars]
  rw [hopen, ← hpieces, ← hbody]
  rfl

/-! ## 3.  Tokens -/

theorem scan_openBracket (rest : List Char) :
    scan .between ('[' :: rest) = .openBracket :: scan .between rest :=
  rfl

theorem scan_openBrace (rest : List Char) :
    scan .between ('\x7b' :: rest) = .openBrace :: scan .between rest :=
  rfl

theorem scan_comma (rest : List Char) :
    scan .between (',' :: rest) = .comma :: scan .between rest :=
  rfl

theorem scan_colon (rest : List Char) :
    scan .between (':' :: rest) = .colon :: scan .between rest :=
  rfl

mutual

/-- **The scanner gives the tokens of a value**, whatever comes behind its text. -/
theorem scan_chars (rest : List Char) :
    (json : Json) → json.HasNoNumber →
      scan .between (json.chars ++ rest) = json.tokens ++ scan .between rest
  | .null, _ => rfl
  | .bool true, _ => rfl
  | .bool false, _ => rfl
  | .string text, _ => scan_stringChars text rest
  | .array [], _ => rfl
  | .array (item :: items), h => by
    simp only [Json.chars, Json.tokens, List.cons_append, List.append_assoc]
    rw [scan_openBracket, scan_chars _ item h.1, scan_itemsChars rest items h.2]
  | .object [], _ => rfl
  | .object ((key, value) :: members), h => by
    simp only [Json.chars, Json.tokens, List.cons_append, List.append_assoc]
    rw [scan_openBrace, scan_stringChars, scan_colon, scan_chars _ value h.1,
      scan_membersChars rest members h.2]

theorem scan_itemsChars (rest : List Char) :
    (items : List Json) → Json.ItemsHaveNoNumber items →
      scan .between (Json.itemsChars items ++ rest) = Json.itemsTokens items ++ scan .between rest
  | [], _ => rfl
  | item :: items, h => by
    simp only [Json.itemsChars, Json.itemsTokens, List.cons_append, List.append_assoc]
    rw [scan_comma, scan_chars _ item h.1, scan_itemsChars rest items h.2]

theorem scan_membersChars (rest : List Char) :
    (members : List (String × Json)) → Json.MembersHaveNoNumber members →
      scan .between (Json.membersChars members ++ rest) =
        Json.membersTokens members ++ scan .between rest
  | [], _ => rfl
  | (key, value) :: members, h => by
    simp only [Json.membersChars, Json.membersTokens, List.cons_append, List.append_assoc]
    rw [scan_comma, scan_stringChars, scan_colon, scan_chars _ value h.1,
      scan_membersChars rest members h.2]

end

end Token

/-! ## 4.  Documents -/

namespace Document

theorem assemble_cons {progress next : Progress} {token : Token} (rest : List Token)
    (h : advance? progress token = some next) :
    assemble progress (token :: rest) = assemble next rest := by
  have hopen : ∀ value, progress = ⟨[], .after value⟩ → False := by
    rintro value rfl
    cases h
  rw [assemble, h]
  exact hopen

/-- An array may begin with any value: the first token of one is no closing bracket. -/
theorem assemble_valueOrBracket (stack : List Open) (json : Json) (rest : List Token) :
    assemble ⟨stack, .valueOrBracket⟩ (json.tokens ++ rest) =
      assemble ⟨.array [] :: stack, .value⟩ (json.tokens ++ rest) := by
  fun_cases Json.tokens json <;> exact (assemble_cons _ rfl).trans (assemble_cons _ rfl).symm

mutual

/-- **The assembler puts the tokens of a value together**, whatever waits on the stack. -/
theorem assemble_tokens (stack : List Open) (rest : List Token) :
    (json : Json) →
      assemble ⟨stack, .value⟩ (json.tokens ++ rest) = assemble ⟨stack, .after json.written⟩ rest
  | .null | .bool _ | .number _ | .string _ => assemble_cons rest rfl
  | .array [] | .object [] => (assemble_cons _ rfl).trans (assemble_cons rest rfl)
  | .array (item :: items) => by
    rw [Json.tokens, List.cons_append, List.cons_append, List.append_assoc, assemble_cons _ rfl,
      assemble_valueOrBracket, assemble_tokens _ _ item, assemble_itemsTokens]
    rfl
  | .object ((key, value) :: members) => by
    rw [Json.tokens]
    simp only [List.cons_append, List.append_assoc]
    rw [assemble_cons _ rfl, assemble_cons _ rfl, assemble_cons _ rfl, assemble_tokens _ _ value,
      assemble_membersTokens]
    rfl

/-- The items behind a value are put together with those before it. -/
theorem assemble_itemsTokens (stack : List Open) (rest : List Token) :
    (items : List Json) → (reversed : List Document) → (value : Document) →
      assemble ⟨.array reversed :: stack, .after value⟩ (Json.itemsTokens items ++ rest) =
        assemble ⟨stack, .after (.array (Items.ofList .closed
          (reversed.reverse ++ value :: Json.writtenItems items)))⟩ rest
  | [], reversed, value => assemble_cons rest rfl
  | item :: items, reversed, value => by
    rw [Json.itemsTokens, List.cons_append, List.cons_append, List.append_assoc,
      assemble_cons _ rfl, assemble_tokens _ _ item, assemble_itemsTokens, List.reverse_cons,
      List.append_assoc]
    rfl

/-- The members behind one with a value are put together with those before it. -/
theorem assemble_membersTokens (stack : List Open) (rest : List Token) :
    (members : List (String × Json)) → (reversed : List (Option String × Document)) →
      (key : Option String) → (value : Document) →
      assemble ⟨.object reversed key :: stack, .after value⟩ (Json.membersTokens members ++ rest) =
        assemble ⟨stack, .after (.object (Members.ofList .closed
          (reversed.reverse ++ (key, value) :: Json.writtenMembers members)))⟩ rest
  | [], reversed, key, value => assemble_cons rest rfl
  | (other, json) :: members, reversed, key, value => by
    rw [Json.membersTokens]
    simp only [List.cons_append, List.append_assoc]
    rw [assemble_cons _ rfl, assemble_cons _ rfl, assemble_cons _ rfl, assemble_tokens _ _ json,
      assemble_membersTokens, List.reverse_cons, List.append_assoc]
    rfl

end

end Document

/-! ## 5.  Texts -/

namespace Json

mutual

/-- The value of what was written is what was to be written. -/
theorem json?_written : (json : Json) → json.HasNoNumber → json.written.json? = some json
  | .null, _ | .bool _, _ | .string _, _ => rfl
  | .array items, h => by
    rw [written, Document.json?, json?_writtenItems items h]
    rfl
  | .object members, h => by
    rw [written, Document.json?, json?_writtenMembers members h]
    rfl

theorem json?_writtenItems : (items : List Json) → ItemsHaveNoNumber items →
    (Items.ofList .closed (writtenItems items)).json? = some items
  | [], _ => rfl
  | item :: items, h => by
    rw [writtenItems, Items.ofList, Items.json?, json?_written item h.1,
      json?_writtenItems items h.2]
    rfl

theorem json?_writtenMembers : (members : List (String × Json)) → MembersHaveNoNumber members →
    (Members.ofList .closed (writtenMembers members)).json? = some members
  | [], _ => rfl
  | (key, value) :: members, h => by
    rw [writtenMembers, Members.ofList, Members.json?, json?_written value h.1,
      json?_writtenMembers members h.2]
    rfl

end

/-- Nothing comes behind what was written. -/
theorem ofText_compact {json : Json} (h : json.HasNoNumber) :
    Document.ofText json.compact = (json.written, true) := by
  have hscan : Token.ofText json.compact = json.tokens := by
    have hrest := Token.scan_chars [] json h
    rw [List.append_nil] at hrest
    rw [Token.ofText, compact, String.toList_ofList, hrest]
    exact List.append_nil _
  have hassemble := Document.assemble_tokens [] [] json
  rw [List.append_nil] at hassemble
  rw [Document.ofText, hscan, hassemble]
  rfl

/-- **The value of the compact text is the value that was written.** -/
theorem ofText?_compact {json : Json} (h : json.HasNoNumber) :
    ofText? json.compact = some json := by
  rw [ofText?, ofText_compact h]
  exact json?_written json h

/-- No two values without numbers have one text. -/
theorem eq_of_compact_eq {json other : Json} (h : json.HasNoNumber) (hother : other.HasNoNumber)
    (heq : json.compact = other.compact) : json = other := by
  rw [← Option.some_inj, ← ofText?_compact h, ← ofText?_compact hother, heq]

end Json
end WithdrawalCascade
