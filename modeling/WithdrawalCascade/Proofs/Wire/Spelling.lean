import WithdrawalCascade.Proofs.EntityId
import WithdrawalCascade.Proofs.Json.Records
import WithdrawalCascade.Wire.Context
import WithdrawalCascade.Wire.Node

/-!
# The grammar of the wire

What may be handed over, form by form, said of JSON values and without any reader: the spellings of
names, identifiers, statuses, nodes, users, contexts and settings.  Every reader accepts exactly
these, as `Reader.Reads` states of each.
-/

namespace WithdrawalCascade

open Reader (Reads ReadsWithin Slot Layout)

/-! ## 1.  Names and identifiers -/

namespace EntityKind

/-- The spellings of a kind. -/
def SpelledBy (kind : EntityKind) : Json → Prop :=
  Spelling.ofName kind.name

theorem reads : Reads read SpelledBy :=
  Reader.reads_oneOf (Reader.lookup_names_eq_some_iff (fun value => by cases value <;> decide)
    (by decide))

end EntityKind

namespace BlockingReason

/-- The spellings of a reason. -/
def SpelledBy (reason : BlockingReason) : Json → Prop :=
  Spelling.ofName reason.name

theorem reads : Reads read SpelledBy :=
  Reader.reads_oneOf (Reader.lookup_names_eq_some_iff (fun value => by cases value <;> decide)
    (by decide))

end BlockingReason

namespace WithdrawalReason

/-- The spellings of a reason. -/
def SpelledBy (reason : WithdrawalReason) : Json → Prop :=
  Spelling.ofName reason.name

theorem reads : Reads read SpelledBy :=
  Reader.reads_oneOf (Reader.lookup_names_eq_some_iff (fun value => by cases value <;> decide)
    (by decide))

end WithdrawalReason

namespace MissingBookingPolicy

/-- The spellings of a policy. -/
def SpelledBy (policy : MissingBookingPolicy) : Json → Prop :=
  Spelling.ofName policy.word

theorem reads : Reads read SpelledBy :=
  Reader.reads_oneOf (Reader.lookup_names_eq_some_iff (fun value => by cases value <;> decide)
    (by decide))

end MissingBookingPolicy

namespace EntityId

/-- The spellings of an identifier: its forms, with letters in either case. -/
def SpelledBy (id : EntityId) (json : Json) : Prop :=
  ∃ text, json = .string text ∧ text.toList.map Char.toLower ∈ id.forms

theorem reads : Reads Reader.entityId SpelledBy := by
  intro medium levels document json hdenotes hdepth id
  rw [Reader.entityId, Reader.bind_eq_ok_iff]
  simp only [Reader.reads_string medium levels hdenotes hdepth]
  refine exists_congr fun text => and_congr_right fun _ => ?_
  rw [← ofString?_eq_some_iff]
  cases ofString? text <;> simp

end EntityId

/-! ## 2.  Settings -/

namespace Config

/-- The parts of the settings. -/
def parts (config : Config) : List Spelling.Part :=
  [.defaulted "on_missing_booking" (config.onMissingBooking = .abort)
    config.onMissingBooking.SpelledBy]

/-- The spellings of settings. -/
def SpelledBy (config : Config) : Json → Prop :=
  Spelling.ofRecord config.parts

/-- The fields of the settings with their spellings. -/
def slots (medium : Medium) (levels : Nat) : List (Slot Config) :=
  [⟨"on_missing_booking", .defaulted, MissingBookingPolicy.read medium levels,
    fun config policy => { config with onMissingBooking := policy }, Config.onMissingBooking,
    MissingBookingPolicy.SpelledBy⟩]

theorem layout (medium : Medium) (levels : Nat) : Layout levels (slots medium levels) where
  reads := by
    rw [slots, List.forall_mem_singleton]
    exact MissingBookingPolicy.reads medium levels
  get_set := by simp [slots]
  apart := List.pairwise_singleton _ _
  ext := by
    rintro ⟨⟩ ⟨⟩ h
    simpa [slots] using h

theorem reads : Reads read SpelledBy :=
  Reader.reads_record layout fun _ _ _ => rfl

end Config

/-! ## 3.  Nodes -/

namespace Status

/-- The parts of a status. -/
def parts (status : Status) : List Spelling.Part :=
  [.required "withdrawable" (· = .bool status.withdrawable),
    .required "user_may_directly_withdraw" (· = .bool status.mayDirectlyWithdraw),
    .defaulted "block_ancestor_withdrawals" (status.blocksAncestors = false)
      (· = .bool status.blocksAncestors),
    .defaulted "blocking_reason" (status.blockingReason = none)
      (Spelling.ofOption BlockingReason.SpelledBy status.blockingReason)]

/-- The spellings of a status. -/
def SpelledBy (status : Status) : Json → Prop :=
  Spelling.ofRecord status.parts

/-- The fields of a status with their spellings. -/
def slots (medium : Medium) (levels : Nat) : List (Slot Status) :=
  [⟨"withdrawable", .required, Reader.bool medium levels,
      fun status flag => { status with withdrawable := flag }, Status.withdrawable,
      fun flag json => json = .bool flag⟩,
    ⟨"user_may_directly_withdraw", .required, Reader.bool medium levels,
      fun status flag => { status with mayDirectlyWithdraw := flag }, Status.mayDirectlyWithdraw,
      fun flag json => json = .bool flag⟩,
    ⟨"block_ancestor_withdrawals", .defaulted, Reader.bool medium levels,
      fun status flag => { status with blocksAncestors := flag }, Status.blocksAncestors,
      fun flag json => json = .bool flag⟩,
    ⟨"blocking_reason", .defaulted, Reader.nullable BlockingReason.read medium levels,
      fun status reason => { status with blockingReason := reason }, Status.blockingReason,
      Spelling.ofOption BlockingReason.SpelledBy⟩]

theorem layout (medium : Medium) (levels : Nat) : Layout levels (slots medium levels) where
  reads := by
    simp only [slots, List.forall_mem_cons, List.not_mem_nil, false_implies, implies_true, and_true]
    exact ⟨Reader.reads_bool medium levels, Reader.reads_bool medium levels,
      Reader.reads_bool medium levels, BlockingReason.reads.nullable (fun _ h => h) medium levels⟩
  get_set := by simp [slots]
  apart := by simp [slots, Slot.Apart]
  ext := by
    rintro ⟨⟩ ⟨⟩ h
    simpa [slots] using h

theorem reads : Reads read SpelledBy :=
  Reader.reads_record layout fun _ _ _ => rfl

end Status

mutual

/-- The spellings of a node. -/
def Node.SpelledBy : Node → Json → Prop
  | ⟨kind, id, status, children⟩ =>
    Spelling.ofRecord
      [.required "entity_type" kind.SpelledBy, .required "entity_id" id.SpelledBy,
        .required "status" status.SpelledBy,
        .defaulted "children" (children = []) fun json =>
          ∃ items, json = .array items ∧ Forest.SpelledBy children items]

/-- Whether some items are spellings of some nodes, each of one. -/
def Forest.SpelledBy : List Node → List Json → Prop
  | [], [] => True
  | node :: rest, item :: items => node.SpelledBy item ∧ Forest.SpelledBy rest items
  | _, _ => False

end

theorem Forest.spelledBy_iff {nodes : List Node} {items : List Json} :
    Forest.SpelledBy nodes items ↔ List.Forall₂ Node.SpelledBy nodes items := by
  induction nodes generalizing items with
  | nil => cases items <;> simp [Forest.SpelledBy]
  | cons node rest ih => cases items <;> simp [Forest.SpelledBy, ih]

namespace Node

variable {medium : Medium} {levels : Nat} {children : Document → Except ReadError (List Node)}

/-- The fields of a node with their spellings, where `children` reads the children. -/
def slots (medium : Medium) (levels : Nat) (children : Document → Except ReadError (List Node)) :
    List (Slot Node) :=
  [⟨"entity_type", .required, EntityKind.read medium levels,
      fun node kind => { node with kind := kind }, Node.kind, EntityKind.SpelledBy⟩,
    ⟨"entity_id", .required, Reader.entityId medium levels,
      fun node id => { node with id := id }, Node.id, EntityId.SpelledBy⟩,
    ⟨"status", .required, Status.read medium levels,
      fun node status => { node with status := status }, Node.status, Status.SpelledBy⟩,
    ⟨"children", .defaulted, children,
      fun node children => { node with children := children }, Node.children,
      fun nodes json => ∃ items, json = .array items ∧ Forest.SpelledBy nodes items⟩]

theorem layout (medium : Medium) (h : ReadsWithin levels children fun nodes json =>
    ∃ items, json = .array items ∧ Forest.SpelledBy nodes items) :
    Layout levels (slots medium levels children) where
  reads := by
    simp only [slots, List.forall_mem_cons, List.not_mem_nil, false_implies, implies_true, and_true]
    exact ⟨EntityKind.reads medium levels, EntityId.reads medium levels,
      Status.reads medium levels, h⟩
  get_set := by simp [slots]
  apart := by simp [slots, Slot.Apart]
  ext := by
    rintro ⟨⟩ ⟨⟩ h
    simpa [slots] using h

theorem spelledBy_eq (node : Node) :
    node.SpelledBy =
      Spelling.ofRecord ((slots medium levels children).map fun slot => slot.part blank node) := by
  obtain ⟨kind, id, status, dependants⟩ := node
  rw [SpelledBy]
  rfl

/-- A node is read from its spellings if its children are read from theirs. -/
theorem readsWithin_record (medium : Medium)
    (h : ReadsWithin levels children fun nodes json =>
      ∃ items, json = .array items ∧ List.Forall₂ SpelledBy nodes items) :
    ReadsWithin (levels + 1)
      (Reader.record medium (levels + 1) (fields medium levels children) blank) SpelledBy := by
  simp only [← Forest.spelledBy_iff] at h
  have hspelled : SpelledBy = fun node =>
      Spelling.ofRecord ((slots medium levels children).map fun slot => slot.part blank node) :=
    funext spelledBy_eq
  rw [hspelled]
  exact (layout medium h).readsWithin_record medium blank

/-- Nodes are read from their spellings.  The recursion goes down two levels at a time, through the
record of a node and the list of its children. -/
theorem reads (medium : Medium) : (levels : Nat) → ReadsWithin levels (read medium levels) SpelledBy
  | 0 => by
    have hspelled : SpelledBy = fun node => Spelling.ofRecord ((slots medium 0
        fun document => .error document.refusal).map fun slot => slot.part blank node) :=
      funext spelledBy_eq
    rw [hspelled]
    exact Reader.readsWithin_zero_record medium [] blank _
  | 1 => readsWithin_record medium (Reader.readsWithin_zero_list _ _)
  | levels + 2 => readsWithin_record medium (reads medium levels).list

end Node

/-! ## 4.  Contexts -/

namespace User

/-- The parts of a user. -/
def parts (user : User) : List Spelling.Part :=
  [.required "id" user.id.SpelledBy, .required "username" (· = .string user.username)]

/-- The spellings of a user. -/
def SpelledBy (user : User) : Json → Prop :=
  Spelling.ofRecord user.parts

/-- The fields of a user with their spellings. -/
def slots (medium : Medium) (levels : Nat) : List (Slot User) :=
  [⟨"id", .required, Reader.entityId medium levels, fun user id => { user with id := id }, User.id,
      EntityId.SpelledBy⟩,
    ⟨"username", .required, Reader.string medium levels,
      fun user username => { user with username := username }, User.username,
      fun username json => json = .string username⟩]

theorem layout (medium : Medium) (levels : Nat) : Layout levels (slots medium levels) where
  reads := by
    simp only [slots, List.forall_mem_cons, List.not_mem_nil, false_implies, implies_true, and_true]
    exact ⟨EntityId.reads medium levels, Reader.reads_string medium levels⟩
  get_set := by simp [slots]
  apart := by simp [slots, Slot.Apart]
  ext := by
    rintro ⟨⟩ ⟨⟩ h
    simpa [slots] using h

theorem reads : Reads read SpelledBy :=
  Reader.reads_record layout fun _ _ _ => rfl

end User

namespace Context

/-- The parts of a context. -/
def parts (context : Context) : List Spelling.Part :=
  [.nullable "triggering_user" (context.triggeringUser = none)
      (Spelling.ofOption User.SpelledBy context.triggeringUser),
    .required "triggering_entity_type" context.triggeringKind.SpelledBy,
    .required "triggering_entity_id" context.triggeringId.SpelledBy]

/-- The spellings of a context. -/
def SpelledBy (context : Context) : Json → Prop :=
  Spelling.ofRecord context.parts

/-- The fields of a context with their spellings. -/
def slots (medium : Medium) (levels : Nat) : List (Slot Context) :=
  [⟨"triggering_user", .nullable, Reader.nullable User.read medium levels,
      fun context user => { context with triggeringUser := user }, Context.triggeringUser,
      Spelling.ofOption User.SpelledBy⟩,
    ⟨"triggering_entity_type", .required, EntityKind.read medium levels,
      fun context kind => { context with triggeringKind := kind }, Context.triggeringKind,
      EntityKind.SpelledBy⟩,
    ⟨"triggering_entity_id", .required, Reader.entityId medium levels,
      fun context id => { context with triggeringId := id }, Context.triggeringId,
      EntityId.SpelledBy⟩]

theorem layout (medium : Medium) (levels : Nat) : Layout levels (slots medium levels) where
  reads := by
    simp only [slots, List.forall_mem_cons, List.not_mem_nil, false_implies, implies_true, and_true]
    exact ⟨User.reads.nullable (fun _ h => h) medium levels, EntityKind.reads medium levels,
      EntityId.reads medium levels⟩
  get_set := by simp [slots]
  apart := by simp [slots, Slot.Apart]
  ext := by
    rintro ⟨⟩ ⟨⟩ h
    simpa [slots] using h

theorem reads : Reads read SpelledBy :=
  Reader.reads_record layout fun _ _ _ => rfl

end Context

/-- **What is accepted is the grammar**: of all JSON values exactly the spellings of a tree, a
status, a context, a user or settings are read as it. -/
theorem Spelling.ofJson_eq_ok_iff (json : Json) :
    (∀ node, Reader.ofJson Node.read json = .ok node ↔ node.SpelledBy json) ∧
      (∀ status, Reader.ofJson Status.read json = .ok status ↔ status.SpelledBy json) ∧
      (∀ context, Reader.ofJson Context.read json = .ok context ↔ context.SpelledBy json) ∧
      (∀ user, Reader.ofJson User.read json = .ok user ↔ user.SpelledBy json) ∧
      ∀ config, Reader.ofJson Config.read json = .ok config ↔ config.SpelledBy json :=
  ⟨Reads.ofJson_iff Node.reads json, Status.reads.ofJson_iff json, Context.reads.ofJson_iff json,
    User.reads.ofJson_iff json, Config.reads.ofJson_iff json⟩

end WithdrawalCascade
