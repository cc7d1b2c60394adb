import WithdrawalCascade.Proofs.Json.Printing
import WithdrawalCascade.Proofs.Json.Repetition
import WithdrawalCascade.Proofs.Wire.Spelling

/-!
# Values and texts are read alike

Whatever is handed over can come as a JSON value or as JSON text, and it is read by one walk over
either.  A text whose value gives no key twice is read exactly as its value is, in whatever order
either has its members (`Reader.Agrees`).

A value cannot give a key twice, but a text can.  A text that gives a field twice is refused, in the
record that is read as in each that lies inside it, at any depth (`Reader.Refuses`).
-/

namespace WithdrawalCascade

/-! ## 1.  Repeated fields -/

/-- Whether settings are given a field twice. -/
def Config.RepeatsField (document : Document) : Prop :=
  document.RepeatsOneOf ["on_missing_booking"]

/-- Whether a status is given a field twice. -/
def Status.RepeatsField (document : Document) : Prop :=
  document.RepeatsOneOf ["withdrawable", "user_may_directly_withdraw",
    "block_ancestor_withdrawals", "blocking_reason"]

/-- Whether a user is given a field twice. -/
def User.RepeatsField (document : Document) : Prop :=
  document.RepeatsOneOf ["id", "username"]

/-- Whether a context, or the user in it, is given a field twice. -/
def Context.RepeatsField (document : Document) : Prop :=
  document.RepeatsOneOf ["triggering_user", "triggering_entity_type", "triggering_entity_id"] ∨
    ∃ user, document.HasPart "triggering_user" 0 user ∧ User.RepeatsField user

/-- Whether a node, its status or a node under it is given a field twice. -/
inductive Node.RepeatsField : Document → Prop where
  | own {document : Document} :
      document.RepeatsOneOf ["entity_type", "entity_id", "status", "children"] →
      Node.RepeatsField document
  | status {document status : Document} :
      document.HasPart "status" 2 status → Status.RepeatsField status → Node.RepeatsField document
  | child {document child : Document} {children : Items} :
      document.HasPart "children" 3 (.array children) → children.Has child →
      Node.RepeatsField child → Node.RepeatsField document

/-! ## 2.  Readers refuse them -/

section Refusals

variable {medium : Medium} {levels : Nat} {document : Document}

theorem Config.not_repeatsField {config : Config} (h : read medium levels document = .ok config) :
    ¬ RepeatsField document :=
  Reader.not_repeatsOneOf_of_record h

theorem Status.not_repeatsField {status : Status} (h : read medium levels document = .ok status) :
    ¬ RepeatsField document :=
  Reader.not_repeatsOneOf_of_record h

theorem User.not_repeatsField {user : User} (h : read medium levels document = .ok user) :
    ¬ RepeatsField document :=
  Reader.not_repeatsOneOf_of_record h

theorem Context.not_repeatsField {context : Context}
    (h : read medium levels document = .ok context) : ¬ RepeatsField document := by
  rintro (hrepeats | ⟨part, hpart, hrepeats⟩)
  · exact Reader.not_repeatsOneOf_of_record h hrepeats
  · obtain ⟨before, after, hread⟩ := Reader.exists_read_of_hasPart h hpart rfl rfl
      (by simp [fields, Reader.Field.of])
    obtain ⟨value, hvalue, -⟩ := Reader.map_eq_ok_iff.mp hread
    have hpresent : part ≠ .null := by
      rintro rfl
      exact hrepeats
    rw [Reader.nullable_eq_map hpresent] at hvalue
    obtain ⟨user, huser, -⟩ := Reader.map_eq_ok_iff.mp hvalue
    exact User.not_repeatsField huser hrepeats

/-- Whatever node is read, it was read as a record whose children were read as nodes. -/
theorem Node.exists_record_of_read {node : Node} (h : read medium levels document = .ok node) :
    ∃ below children,
      Reader.record medium (below + 1) (fields medium below children) blank document = .ok node ∧
        ∀ {items : Items} {nodes : List Node} {child : Document},
          children (.array items) = .ok nodes → items.Has child →
            ∃ levels result, read medium levels child = .ok result := by
  match levels, h with
  | 0, h => cases document <;> cases h
  | 1, h =>
    refine ⟨0, _, h, fun hitems _ => ?_⟩
    cases hitems
  | levels + 2, h =>
    refine ⟨levels + 1, _, h, fun hitems hchild => ?_⟩
    exact ⟨levels, Reader.exists_read_of_has _ hitems hchild⟩

/-- The induction is on where the field is repeated; each level of the tree is one record. -/
theorem Node.not_repeatsField (hrepeats : RepeatsField document) :
    ∀ {levels node}, read medium levels document ≠ .ok node := by
  induction hrepeats with
  | own hown =>
    intro levels node h
    obtain ⟨below, children, hrecord, -⟩ := exists_record_of_read h
    exact Reader.not_repeatsOneOf_of_record hrecord hown
  | status hpart hstatus =>
    intro levels node h
    obtain ⟨below, children, hrecord, -⟩ := exists_record_of_read h
    obtain ⟨before, after, hread⟩ :=
      Reader.exists_read_of_hasPart hrecord hpart rfl rfl (by simp [fields, Reader.Field.of])
    obtain ⟨status, hvalue, -⟩ := Reader.map_eq_ok_iff.mp hread
    exact Status.not_repeatsField hvalue hstatus
  | child hpart hchild _ ih =>
    intro levels node h
    obtain ⟨below, children, hrecord, hchildren⟩ := exists_record_of_read h
    obtain ⟨before, after, hread⟩ :=
      Reader.exists_read_of_hasPart hrecord hpart rfl rfl (by simp [fields, Reader.Field.of])
    obtain ⟨nodes, hnodes, -⟩ := Reader.map_eq_ok_iff.mp hread
    obtain ⟨levels, child, hread⟩ := hchildren hnodes hchild
    exact ih hread

end Refusals

/-! ## 3.  Both media -/

namespace Reader

variable {α : Type}

/-- A reader reads texts as it reads values, if it has levels enough. -/
structure Agrees (reader : Reader α) : Prop where
  /-- A text whose value gives no key twice is read as its value is. -/
  value : ∀ {text : String} {json : Json}, Json.ofText? text = some json → json.HasDistinctKeys →
    ∀ {levels : Nat}, (Document.ofText text).1.depth ≤ levels →
      ∀ result, ofTextWithin levels reader text = .ok result ↔ ofJson reader json = .ok result
  /-- Texts that give one value, each with the members in an order of its own, are read alike. -/
  order : ∀ {text other : String} {json : Json}, (Document.ofText text).2 = true →
    (Document.ofText other).2 = true → (Document.ofText text).1.Denotes json →
    (Document.ofText other).1.Denotes json →
    ∀ {levels : Nat}, (Document.ofText text).1.depth ≤ levels →
      (Document.ofText other).1.depth ≤ levels →
      ∀ result, ofTextWithin levels reader text = .ok result ↔
        ofTextWithin levels reader other = .ok result

/-- No text that repeats a field is ever read. -/
def Refuses (reader : Reader α) (repeats : Document → Prop) : Prop :=
  ∀ text, repeats (Document.ofText text).1 →
    ∀ levels result, ofTextWithin levels reader text ≠ .ok result

/-- What is read exactly from its spellings is read alike from either medium. -/
theorem Reads.agrees {reader : Reader α} {spelling : α → Json → Prop}
    (h : Reads reader spelling) : Agrees reader where
  value := by
    intro text json hvalue hkeys levels hdepth result
    rw [Json.ofText?] at hvalue
    split at hvalue
    · rename_i document htext
      rw [htext] at hdepth
      have hdenotes := Document.denotes_of_json? document hvalue hkeys
      rw [h.ofTextWithin_iff htext hdenotes hdepth, h.ofJson_iff]
    · cases hvalue
  order := by
    intro text other json htext hother hdenotes hdenotesOther levels hdepth hdepthOther result
    rw [h.ofTextWithin_iff (Prod.ext rfl htext) hdenotes hdepth,
      h.ofTextWithin_iff (Prod.ext rfl hother) hdenotesOther hdepthOther]

/-- What no document that repeats a field is read as, no such text is. -/
theorem refuses_of_not_repeats {reader : Reader α} {repeats : Document → Prop}
    (h : ∀ {levels document result}, reader .text levels document = .ok result →
      ¬ repeats document) : Refuses reader repeats := by
  intro text hrepeats levels result hread
  obtain ⟨value, hvalue, -⟩ := bind_eq_ok_iff.mp hread
  exact h hvalue hrepeats

/-- **Values and texts are read alike**, whatever is handed over, and no text is read that gives a
field twice in a record at any depth. -/
theorem media_agree :
    (Agrees EntityKind.read ∧ Agrees BlockingReason.read ∧ Agrees WithdrawalReason.read ∧
      Agrees MissingBookingPolicy.read ∧ Agrees Config.read ∧ Agrees Status.read ∧
      Agrees Node.read ∧ Agrees User.read ∧ Agrees Context.read) ∧
      Refuses Node.read Node.RepeatsField ∧ Refuses Status.read Status.RepeatsField ∧
      Refuses Context.read Context.RepeatsField ∧ Refuses User.read User.RepeatsField ∧
      Refuses Config.read Config.RepeatsField :=
  ⟨⟨EntityKind.reads.agrees, BlockingReason.reads.agrees, WithdrawalReason.reads.agrees,
      MissingBookingPolicy.reads.agrees, Config.reads.agrees, Status.reads.agrees,
      Reads.agrees Node.reads, User.reads.agrees, Context.reads.agrees⟩,
    refuses_of_not_repeats fun h hrepeats => Node.not_repeatsField hrepeats h,
    refuses_of_not_repeats Status.not_repeatsField,
    refuses_of_not_repeats Context.not_repeatsField,
    refuses_of_not_repeats User.not_repeatsField,
    refuses_of_not_repeats Config.not_repeatsField⟩

/-- A user is read from a text as from its value, also with the members in the other order, and a
child that is given its status twice keeps a tree from being read. -/
theorem media_agree_userAndChild :
    let id := Json.string "00000000000000000000000000000007"
    let json := Json.object [("username", .string "a"), ("id", id)]
    let turned := Json.object [("id", id), ("username", .string "a")]
    let tree := Json.array [.string "Booking", id, .array [.bool true, .bool true],
      .array [.object [("status", .array []), ("status", .null)]]]
    (Json.ofText? json.compact = some json ∧ json.HasDistinctKeys ∧
      (Document.ofText turned.compact).1.Denotes json ∧
      ofText User.read json.compact = .ok ⟨EntityId.ofNat 7, "a"⟩ ∧
      ofText User.read turned.compact = .ok ⟨EntityId.ofNat 7, "a"⟩) ∧
      Node.RepeatsField (Document.ofText tree.compact).1 ∧
        ofText Node.read tree.compact ≠ .ok Node.blank := by
  intro id json turned tree
  have htext := Json.ofText_compact (show json.HasNoNumber from ⟨trivial, trivial, trivial⟩)
  have hturned := Json.ofText_compact (show turned.HasNoNumber from ⟨trivial, trivial, trivial⟩)
  have htree := Json.ofText_compact (show tree.HasNoNumber by
    simp [tree, id, Json.HasNoNumber, Json.ItemsHaveNoNumber, Json.MembersHaveNoNumber])
  have hvalue : Json.ofText? json.compact = some json :=
    Json.ofText?_compact ⟨trivial, trivial, trivial⟩
  have hkeys : json.HasDistinctKeys := by
    simp [json, id, Json.HasDistinctKeys, Json.MembersHaveDistinctKeys]
  have hdepth : (Document.ofText json.compact).1.depth ≤ textDepth := by
    rw [htext]
    decide
  have hturnedDepth : (Document.ofText turned.compact).1.depth ≤ textDepth := by
    rw [hturned]
    decide
  have hdenotes : (Document.ofText json.compact).1.Denotes json := by
    rw [htext]
    exact Document.denotes_of_json? _ rfl hkeys
  have hturnedDenotes : (Document.ofText turned.compact).1.Denotes json := by
    rw [hturned]
    refine .object (.more (.string _) (.more (.string _) (.closed fun _ => rfl) rfl
      fun _ => rfl) (by decide) fun key => ?_)
    by_cases hid : key = "id" <;> by_cases hname : key = "username" <;>
      simp [Json.member?, hid, hname, eq_comm, id]
  have hread : ofJson User.read json = .ok ⟨EntityId.ofNat 7, "a"⟩ := by cbv
  have hagrees := media_agree.1.2.2.2.2.2.2.2.1
  have hfromText := (hagrees.value hvalue hkeys hdepth _).mpr hread
  have hfromTurned := (hagrees.order (congrArg Prod.snd htext) (congrArg Prod.snd hturned) hdenotes
    hturnedDenotes hdepth hturnedDepth _).mp hfromText
  have hrepeats : Node.RepeatsField (Document.ofText tree.compact).1 := by
    rw [htree]
    exact .child rfl (.inl rfl) (.own ⟨"status", by decide, .inl ⟨rfl, .inl rfl⟩⟩)
  exact ⟨⟨hvalue, hkeys, hturnedDenotes, hfromText, hfromTurned⟩, hrepeats,
    media_agree.2.1 _ hrepeats textDepth Node.blank⟩

end Reader
end WithdrawalCascade
