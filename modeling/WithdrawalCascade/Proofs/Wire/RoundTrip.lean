import WithdrawalCascade.Proofs.Json.Printing
import WithdrawalCascade.Proofs.Wire.Spelling
import WithdrawalCascade.Sample

/-!
# What is handed over arrives

The form in which something is handed over is one of its spellings, holds no number and gives no key
twice.  So whoever reads it gets back what was handed over, from the value as from its compact text
(`Reader.Reads.undoes`).
-/

namespace WithdrawalCascade

/-! ## 1.  Plain values -/

namespace Json

/-- A value that can be told from its text and from its members in any order. -/
structure IsPlain (json : Json) : Prop where
  hasNoNumber : json.HasNoNumber
  hasDistinctKeys : json.HasDistinctKeys

theorem isPlain_bool (value : Bool) : (Json.bool value).IsPlain :=
  ⟨trivial, trivial⟩

theorem isPlain_string (text : String) : (Json.string text).IsPlain :=
  ⟨trivial, trivial⟩

theorem isPlain_ofOption {α : Type} {form : α → Json} (h : ∀ value, (form value).IsPlain) :
    (part : Option α) → (Json.ofOption form part).IsPlain
  | none => ⟨trivial, trivial⟩
  | some value => h value

theorem isPlain_array {items : List Json} (h : ∀ item ∈ items, item.IsPlain) :
    (Json.array items).IsPlain := by
  induction items with
  | nil => exact ⟨trivial, trivial⟩
  | cons item items ih =>
    obtain ⟨hitem, hitems⟩ := List.forall_mem_cons.mp h
    exact ⟨⟨hitem.hasNoNumber, (ih hitems).hasNoNumber⟩,
      ⟨hitem.hasDistinctKeys, (ih hitems).hasDistinctKeys⟩⟩

theorem isPlain_object {members : List (String × Json)} (hkeys : (members.map (·.1)).Nodup)
    (h : ∀ member ∈ members, member.2.IsPlain) : (Json.object members).IsPlain := by
  induction members with
  | nil => exact ⟨trivial, List.nodup_nil, trivial⟩
  | cons member members ih =>
    obtain ⟨hmember, hmembers⟩ := List.forall_mem_cons.mp h
    have hrest := ih (List.nodup_cons.mp hkeys).2 hmembers
    exact ⟨⟨hmember.hasNoNumber, hrest.hasNoNumber⟩, hkeys,
      ⟨hmember.hasDistinctKeys, hrest.hasDistinctKeys.2⟩⟩

/-- What stands under a key, if no key is given twice. -/
theorem member?_eq_some {key : String} {value : Json} {members : List (String × Json)}
    (hkeys : (members.map (·.1)).Nodup) (hmember : (key, value) ∈ members) :
    member? key members = some value := by
  induction members with
  | nil => cases hmember
  | cons first rest ih =>
    obtain ⟨hfirst, hrest⟩ := List.nodup_cons.mp hkeys
    rw [member?]
    rcases List.mem_cons.mp hmember with rfl | hmember
    · rw [if_pos rfl, member?_eq_none_iff.mpr fun member hmember heq =>
        hfirst (List.mem_map.mpr ⟨member, hmember, heq⟩)]
      rfl
    · rw [ih hrest hmember, Option.some_or]

end Json

/-- An object that gives the parts of a record in their order is a spelling of it. -/
theorem Spelling.ofRecord_object {parts : List Part} {members : List (String × Json)}
    (hkeys : (members.map (·.1)).Nodup)
    (h : List.Forall₂ (fun part member => member.1 = part.name ∧ part.spelling member.2)
      parts members) : ofRecord parts (.object members) := by
  have hgiven : ∀ part ∈ parts, ∃ value, (part.name, value) ∈ members ∧ part.spelling value := by
    clear hkeys
    induction h with
    | nil => exact fun _ hpart => absurd hpart List.not_mem_nil
    | @cons part member parts members hfirst hrest ih =>
      rw [List.forall_mem_cons]
      refine ⟨⟨member.2, ?_, hfirst.2⟩, fun other hother => ?_⟩
      · rw [← hfirst.1]
        exact List.mem_cons_self
      · obtain ⟨value, hvalue, hspelled⟩ := ih other hother
        exact ⟨value, List.mem_cons_of_mem _ hvalue, hspelled⟩
  intro part hpart
  obtain ⟨value, hvalue, hspelled⟩ := hgiven part hpart
  rw [Part.InObject, Json.member?_eq_some hkeys hvalue]
  exact hspelled

/-- The form of what may be absent is a spelling if the form of what is there is. -/
theorem Spelling.ofOption_ofOption {α : Type} {spelling : α → Json → Prop} {form : α → Json}
    (h : ∀ value, spelling value (form value)) :
    (part : Option α) → ofOption spelling part (Json.ofOption form part)
  | none => rfl
  | some value => h value

/-! ## 2.  Reading undoes writing -/

namespace Reader

variable {α : Type}

/-- A reader gets back from a form what the form is of, and so it does from the compact text of the
form, if it has levels enough.  No two things share a text. -/
def Undoes (reader : Reader α) (form : α → Json) : Prop :=
  ∀ value,
    ofJson reader (form value) = .ok value ∧
      (∀ levels, (Document.ofText (form value).compact).1.depth ≤ levels →
        ofTextWithin levels reader (form value).compact = .ok value) ∧
      ∀ other, (form other).compact = (form value).compact → other = value

/-- What a reader reads exactly from its spellings, it gets back from a form that is one. -/
theorem Reads.undoes {reader : Reader α} {spelling : α → Json → Prop} {form : α → Json}
    (h : Reads reader spelling) (hspelled : ∀ value, spelling value (form value))
    (hplain : ∀ value, (form value).IsPlain) : Undoes reader form := by
  have htext : ∀ value levels, (Document.ofText (form value).compact).1.depth ≤ levels →
      ofTextWithin levels reader (form value).compact = .ok value := by
    intro value levels hdepth
    have hnumber := (hplain value).hasNoNumber
    have hdenotes : (form value).written.Denotes (form value) :=
      Document.denotes_of_json? _ (Json.json?_written _ hnumber) (hplain value).hasDistinctKeys
    rw [Json.ofText_compact hnumber] at hdepth
    exact (h.ofTextWithin_iff (Json.ofText_compact hnumber) hdenotes hdepth value).mpr
      (hspelled value)
  intro value
  refine ⟨(h.ofJson_iff _ value).mpr (hspelled value), htext value, fun other heq => ?_⟩
  have hvalue := htext value _ (Nat.le_refl _)
  rw [← heq, htext other _ (Nat.le_refl _)] at hvalue
  exact Except.ok.inj hvalue

end Reader

/-! ## 3.  Each form is a spelling -/

theorem EntityKind.spelledBy_toJson (kind : EntityKind) : kind.SpelledBy kind.toJson :=
  rfl

theorem EntityKind.isPlain_toJson (kind : EntityKind) : kind.toJson.IsPlain :=
  Json.isPlain_string kind.name

theorem BlockingReason.spelledBy_toJson (reason : BlockingReason) :
    reason.SpelledBy reason.toJson :=
  rfl

theorem BlockingReason.isPlain_toJson (reason : BlockingReason) : reason.toJson.IsPlain :=
  Json.isPlain_string reason.name

theorem EntityId.spelledBy_toJson (id : EntityId) : id.SpelledBy id.toJson := by
  refine ⟨id.render, rfl, ?_⟩
  rw [render, String.toList_ofList, map_toLower_hyphenated]
  simp [forms]

theorem EntityId.isPlain_toJson (id : EntityId) : id.toJson.IsPlain :=
  Json.isPlain_string id.render

namespace Status

theorem spelledBy_toJson (status : Status) : status.SpelledBy status.toJson := by
  have hreason := Spelling.ofOption_ofOption BlockingReason.spelledBy_toJson status.blockingReason
  refine Spelling.ofRecord_object (by simp) ?_
  exact .cons ⟨rfl, rfl⟩ (.cons ⟨rfl, rfl⟩ (.cons ⟨rfl, rfl⟩ (.cons ⟨rfl, hreason⟩ .nil)))

theorem isPlain_toJson (status : Status) : status.toJson.IsPlain := by
  have hreason := Json.isPlain_ofOption BlockingReason.isPlain_toJson status.blockingReason
  refine Json.isPlain_object (by simp) ?_
  simp [Json.isPlain_bool, hreason]

end Status

mutual

theorem Node.spelledBy_toJson : (node : Node) → node.SpelledBy node.toJson
  | ⟨kind, id, status, children⟩ => by
    rw [Node.SpelledBy, Node.toJson]
    refine Spelling.ofRecord_object (by simp) ?_
    exact .cons ⟨rfl, kind.spelledBy_toJson⟩ (.cons ⟨rfl, id.spelledBy_toJson⟩
      (.cons ⟨rfl, status.spelledBy_toJson⟩
        (.cons ⟨rfl, _, rfl, Forest.spelledBy_toJson children⟩ .nil)))

theorem Forest.spelledBy_toJson : (nodes : List Node) →
    Forest.SpelledBy nodes (Forest.toJson nodes)
  | [] => by rw [Forest.toJson, Forest.SpelledBy]; trivial
  | node :: rest => by
    rw [Forest.toJson, Forest.SpelledBy]
    exact ⟨node.spelledBy_toJson, Forest.spelledBy_toJson rest⟩

end

mutual

theorem Node.isPlain_toJson : (node : Node) → node.toJson.IsPlain
  | ⟨kind, id, status, children⟩ => by
    rw [Node.toJson]
    refine Json.isPlain_object (by simp) ?_
    simp [EntityKind.isPlain_toJson, EntityId.isPlain_toJson, Status.isPlain_toJson,
      Json.isPlain_array (Forest.isPlain_toJson children)]

theorem Forest.isPlain_toJson : (nodes : List Node) → ∀ item ∈ Forest.toJson nodes, item.IsPlain
  | [] => by simp [Forest.toJson]
  | node :: rest => by
    rw [Forest.toJson, List.forall_mem_cons]
    exact ⟨node.isPlain_toJson, Forest.isPlain_toJson rest⟩

end

namespace User

theorem spelledBy_toJson (user : User) : user.SpelledBy user.toJson := by
  refine Spelling.ofRecord_object (by simp) ?_
  exact .cons ⟨rfl, user.id.spelledBy_toJson⟩ (.cons ⟨rfl, rfl⟩ .nil)

theorem isPlain_toJson (user : User) : user.toJson.IsPlain := by
  refine Json.isPlain_object (by simp) ?_
  simp [EntityId.isPlain_toJson, Json.isPlain_string]

end User

namespace Context

theorem spelledBy_toJson (context : Context) : context.SpelledBy context.toJson := by
  have huser := Spelling.ofOption_ofOption User.spelledBy_toJson context.triggeringUser
  refine Spelling.ofRecord_object (by simp) ?_
  exact .cons ⟨rfl, huser⟩ (.cons ⟨rfl, context.triggeringKind.spelledBy_toJson⟩
    (.cons ⟨rfl, context.triggeringId.spelledBy_toJson⟩ .nil))

theorem isPlain_toJson (context : Context) : context.toJson.IsPlain := by
  have huser := Json.isPlain_ofOption User.isPlain_toJson context.triggeringUser
  refine Json.isPlain_object (by simp) ?_
  simp [EntityKind.isPlain_toJson, EntityId.isPlain_toJson, huser]

end Context

/-- **Reading undoes writing**, for trees, contexts, users and statuses. -/
theorem Reader.undoes_toJson :
    Reader.Undoes Node.read Node.toJson ∧ Reader.Undoes Context.read Context.toJson ∧
      Reader.Undoes User.read User.toJson ∧ Reader.Undoes Status.read Status.toJson :=
  ⟨Reads.undoes Node.reads Node.spelledBy_toJson Node.isPlain_toJson,
    Context.reads.undoes Context.spelledBy_toJson Context.isPlain_toJson,
    User.reads.undoes User.spelledBy_toJson User.isPlain_toJson,
    Status.reads.undoes Status.spelledBy_toJson Status.isPlain_toJson⟩

/-- An application over a blocking booking that has the same identifier. -/
def Sample.doubled : Node :=
  node (EntityId.ofNat 1) .application true [blockingNode (EntityId.ofNat 1) .booking []]

/-- Texts are read deep enough for a booking under an application of the same identifier. -/
theorem Reader.ofText_doubled :
    (Document.ofText Sample.doubled.toJson.compact).1.depth ≤ textDepth ∧
      ofText Node.read Sample.doubled.toJson.compact = .ok Sample.doubled := by
  have hdepth : (Document.ofText Sample.doubled.toJson.compact).1.depth ≤ textDepth := by
    rw [Json.ofText_compact (Node.isPlain_toJson _).hasNoNumber]
    decide
  exact ⟨hdepth, (undoes_toJson.1 Sample.doubled).2.1 textDepth hdepth⟩

end WithdrawalCascade
