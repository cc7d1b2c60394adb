import Mathlib.Data.List.Pairwise
import WithdrawalCascade.Proofs.Json.Reading

/-!
# Which records readers accept

A record is spelled by an object or by an array (`Spelling.ofRecord`).  The reader takes an object
member by member, in whatever order they come, and changes one field of the record after the other.

`Slot` is a field together with the way to get it out of the record and with its spellings.  The
slots of a record are a `Layout` if each reads its spellings, no two disturb one another, and there
is nothing to the record but them.  From that alone it follows that an object is read as a record
exactly if what it gives under each name spells the field (`Layout.members_eq_ok_iff`), that an
array is exactly if its items spell the fields in turn (`Layout.fieldItems_eq_ok_iff`), and with
both that a record is read exactly from its spellings (`reads_record`).
-/

namespace WithdrawalCascade

/-! ## 1.  Spellings -/

namespace Spelling

/-- A part of a record that holds a certain value: what it is called, how the value is spelled, and
whether the value is what the part has when it is left out. -/
structure Part where
  name : String
  spelling : Json → Prop
  /-- Whether an object that leaves the part out gives this value. -/
  isLeftOut : Prop
  /-- Whether an array that ends before the part gives this value. -/
  isCutOff : Prop

namespace Part

/-- A part that is always there. -/
def required (name : String) (spelling : Json → Prop) : Part :=
  ⟨name, spelling, False, False⟩

/-- A part that an object may leave out, which gives the value if it `isAbsent`. -/
def nullable (name : String) (isAbsent : Prop) (spelling : Json → Prop) : Part :=
  ⟨name, spelling, isAbsent, False⟩

/-- A part that an object or an array may leave out, which gives the value if it `isDefault`. -/
def defaulted (name : String) (isDefault : Prop) (spelling : Json → Prop) : Part :=
  ⟨name, spelling, isDefault, isDefault⟩

/-- Whether an object gives a part. -/
def InObject (part : Part) (members : List (String × Json)) : Prop :=
  match Json.member? part.name members with
  | some json => part.spelling json
  | none => part.isLeftOut

end Part

/-- Whether an array gives the parts in order and nothing behind them.  It may end before the last
of them. -/
def InOrder : List Part → List Json → Prop
  | [], [] => True
  | [], _ :: _ => False
  | part :: parts, [] => part.isCutOff ∧ InOrder parts []
  | part :: parts, item :: items => part.spelling item ∧ InOrder parts items

/-- The spellings of a record: an object that gives each part under its name, whatever else it has,
or an array that gives the parts in order. -/
def ofRecord (parts : List Part) : Json → Prop
  | .object members => ∀ part ∈ parts, part.InObject members
  | .array items => InOrder parts items
  | _ => False

end Spelling

/-! ## 2.  Slots -/

namespace Reader

variable {σ : Type}

/-- A field of a record with all that belongs to it: how it is read, put into the record and got out
of it, and how its values are spelled. -/
structure Slot (σ : Type) where
  {Value : Type}
  name : String
  presence : Presence
  read : Document → Except ReadError Value
  set : σ → Value → σ
  get : σ → Value
  spelling : Value → Json → Prop

namespace Slot

/-- The field that a slot is for. -/
def field (slot : Slot σ) : Field σ :=
  .of slot.name slot.presence slot.read slot.set

/-- The part of `record` in a slot, where `defaults` has what is left out. -/
def part (slot : Slot σ) (defaults record : σ) : Spelling.Part :=
  match slot.presence with
  | .required => .required slot.name (slot.spelling (slot.get record))
  | .nullable =>
    .nullable slot.name (slot.get record = slot.get defaults) (slot.spelling (slot.get record))
  | .defaulted =>
    .defaulted slot.name (slot.get record = slot.get defaults) (slot.spelling (slot.get record))

variable {slot : Slot σ} {defaults record : σ}

@[simp] theorem field_name : slot.field.name = slot.name :=
  rfl

@[simp] theorem field_presence : slot.field.presence = slot.presence :=
  rfl

theorem field_read (document : Document) :
    slot.field.read document record = (slot.read document).map (slot.set record) :=
  rfl

@[simp] theorem part_name : (slot.part defaults record).name = slot.name := by
  rw [part]
  cases slot.presence <;> rfl

@[simp] theorem part_spelling :
    (slot.part defaults record).spelling = slot.spelling (slot.get record) := by
  rw [part]
  cases slot.presence <;> rfl

theorem part_isLeftOut_iff : (slot.part defaults record).isLeftOut ↔
    slot.get record = slot.get defaults ∧ slot.presence ≠ .required := by
  rw [part]
  cases slot.presence <;> simp [Spelling.Part.required, Spelling.Part.nullable,
    Spelling.Part.defaulted]

theorem part_isCutOff_iff : (slot.part defaults record).isCutOff ↔
    slot.presence = .defaulted ∧ slot.get record = slot.get defaults := by
  rw [part]
  cases slot.presence <;> simp [Spelling.Part.required, Spelling.Part.nullable,
    Spelling.Part.defaulted]

/-- Two slots of different names, neither of which is changed by way of the other. -/
def Apart (slot other : Slot σ) : Prop :=
  slot.name ≠ other.name ∧ (∀ record value, other.get (slot.set record value) = other.get record) ∧
    ∀ record value, slot.get (other.set record value) = slot.get record

instance : Std.Symm (@Apart σ) :=
  ⟨fun _ _ ⟨hname, hother, hslot⟩ => ⟨hname.symm, hslot, hother⟩⟩

/-- Whether what is still to come for a field, nothing or the given value, makes a record have there
what `value` has.  A field that is required and has been missed so far has to come. -/
def Completes (slot : Slot σ) (record value : σ) (isMissing : Prop) : Option Json → Prop
  | some json => slot.spelling (slot.get value) json
  | none => slot.get record = slot.get value ∧ (isMissing → slot.presence ≠ .required)

end Slot

/-- The slots of a record, all of whose fields can be entered with so many levels. -/
structure Layout (levels : Nat) (slots : List (Slot σ)) : Prop where
  reads : ∀ slot ∈ slots, ReadsWithin levels slot.read slot.spelling
  get_set : ∀ slot ∈ slots, ∀ record value, slot.get (slot.set record value) = value
  apart : slots.Pairwise Slot.Apart
  ext : ∀ {record other : σ}, (∀ slot ∈ slots, slot.get record = slot.get other) → record = other

namespace Layout

variable {levels : Nat} {slots : List (Slot σ)}

theorem eq_iff (h : Layout levels slots) {record other : σ} :
    record = other ↔ ∀ slot ∈ slots, slot.get record = slot.get other :=
  ⟨fun heq _ _ => heq ▸ rfl, h.ext⟩

theorem eq_of_name_eq (h : Layout levels slots) {slot other : Slot σ} (hslot : slot ∈ slots)
    (hother : other ∈ slots) (hname : slot.name = other.name) : slot = other := by
  by_contra hne
  exact (h.apart.forall hslot hother hne).1 hname

theorem get_set_of_name_ne (h : Layout levels slots) {slot other : Slot σ} (hslot : slot ∈ slots)
    (hother : other ∈ slots) (hname : other.name ≠ slot.name) (record : σ) (value : slot.Value) :
    other.get (slot.set record value) = other.get record :=
  (h.apart.forall hslot hother fun heq => hname (heq ▸ rfl)).2.1 record value

/-! ## 3.  Objects -/

/-- A member changes what is still to come for its own field only. -/
theorem completes_set_iff (h : Layout levels slots) {slot : Slot σ} (hslot : slot ∈ slots)
    {missing : List (Slot σ)} {record value : σ} {json : Json}
    {entries others : String → Option Json} (hnew : others slot.name = none)
    (hentries : ∀ other, entries other = if other = slot.name then some json else others other)
    (given : slot.Value) :
    (∀ other ∈ slots, other.Completes (slot.set record given) value
        (other ∈ missing.filter fun other => other.name ≠ slot.name) (others other.name)) ↔
      given = slot.get value ∧ ∀ other ∈ slots, other.name ≠ slot.name →
        other.Completes record value (other ∈ missing) (entries other.name) := by
  have hown : slot.Completes (slot.set record given) value
      (slot ∈ missing.filter fun other => other.name ≠ slot.name) (others slot.name) ↔
        given = slot.get value := by
    simp [hnew, Slot.Completes, h.get_set slot hslot]
  have hothers : ∀ other ∈ slots, other.name ≠ slot.name →
      (other.Completes (slot.set record given) value
          (other ∈ missing.filter fun other => other.name ≠ slot.name) (others other.name) ↔
        other.Completes record value (other ∈ missing) (entries other.name)) := by
    intro other hother hname
    rw [hentries, if_neg hname]
    cases others other.name with
    | some json => exact Iff.rfl
    | none => simp [Slot.Completes, h.get_set_of_name_ne hslot hother hname, hname]
  constructor
  · intro hall
    exact ⟨hown.mp (hall slot hslot), fun other hother hname =>
      (hothers other hother hname).mp (hall other hother)⟩
  · rintro ⟨hgiven, hall⟩ other hother
    by_cases hname : other.name = slot.name
    · rw [h.eq_of_name_eq hother hslot hname]
      exact hown.mpr hgiven
    · exact (hothers other hother hname).mpr (hall other hother hname)

theorem members_closed_eq_ok_iff (h : Layout levels slots) {missing : List (Slot σ)}
    {record value : σ} (hmissing : ∀ slot ∈ missing, slot ∈ slots) :
    members (slots.map Slot.field) (missing.map Slot.field) record .closed = .ok value ↔
      ∀ slot ∈ slots, slot.Completes record value (slot ∈ missing) none := by
  have hrequired : firstRequired? (missing.map Slot.field) = none ↔
      ∀ slot ∈ missing, slot.presence ≠ .required := by
    rw [firstRequired?, List.find?_eq_none, List.forall_mem_map]
    exact forall₂_congr fun slot _ => not_congr decide_eq_true_iff
  have hcomplete : (∀ slot ∈ slots, slot.Completes record value (slot ∈ missing) none) ↔
      record = value ∧ ∀ slot ∈ missing, slot.presence ≠ .required := by
    simp only [Slot.Completes, forall_and, ← h.eq_iff]
    exact and_congr_right fun _ =>
      ⟨fun hall slot hslot => hall slot (hmissing slot hslot) hslot,
        fun hall slot _ hslot => hall slot hslot⟩
  rw [hcomplete, ← hrequired, members]
  cases firstRequired? (missing.map Slot.field) <;> simp

/-- A key that names no field is passed over. -/
theorem members_unknown {missing : List (Field σ)} {record : σ} {key : String} {document : Document}
    (rest : Members) (hunknown : ∀ slot ∈ slots, slot.name ≠ key)
    (hwhole : document.isWhole = true) :
    members (slots.map Slot.field) missing record (.more (some key) document rest) =
      members (slots.map Slot.field) missing record rest := by
  have hfind : ((slots.map Slot.field).find? fun field => field.name = key) = none := by
    rw [List.find?_eq_none, List.forall_mem_map]
    exact fun slot hslot hname => hunknown slot hslot (of_decide_eq_true hname)
  rw [members, hfind]
  simp only [hwhole, if_true]

/-- A key that names a field which has not been met yet is read into it. -/
theorem members_known (h : Layout levels slots) {slot : Slot σ} (hslot : slot ∈ slots)
    {missing : List (Slot σ)} (hmissing : slot ∈ missing) (record : σ) (document : Document)
    (rest : Members) :
    members (slots.map Slot.field) (missing.map Slot.field) record
        (.more (some slot.name) document rest) =
      ((slot.read document).map (slot.set record) >>= fun after =>
        members (slots.map Slot.field)
          ((missing.filter fun other => other.name ≠ slot.name).map Slot.field) after rest) := by
  have hfind : ((slots.map Slot.field).find? fun field => field.name = slot.name) =
      some slot.field := by
    cases hfound : (slots.map Slot.field).find? fun field => field.name = slot.name with
    | none =>
      have hnot := List.find?_eq_none.mp hfound slot.field (List.mem_map_of_mem hslot)
      exact absurd (decide_eq_true rfl) hnot
    | some field =>
      obtain ⟨other, hother, rfl⟩ := List.mem_map.mp (List.mem_of_find?_eq_some hfound)
      have hname := List.find?_some hfound
      rw [h.eq_of_name_eq hother hslot (of_decide_eq_true hname)]
  have hany : ((missing.map Slot.field).any fun field => field.name = slot.name) = true :=
    List.any_eq_true.mpr ⟨slot.field, List.mem_map_of_mem hmissing, decide_eq_true rfl⟩
  have hfilter : ((missing.map Slot.field).filter fun field => field.name ≠ slot.name) =
      (missing.filter fun other => other.name ≠ slot.name).map Slot.field :=
    List.filter_map
  rw [members, hfind]
  simp only [hany, if_true, hfilter, Slot.field_read]

/-- **The order of the members does not matter.**  Reading goes on to `value` exactly if what is
still to come completes every field. -/
theorem members_eq_ok_iff (h : Layout levels slots) {value : σ} :
    (given : Members) → {missing : List (Slot σ)} → {record : σ} →
      {entries : String → Option Json} → given.Denotes entries → given.depth ≤ levels →
      (∀ slot ∈ slots, slot ∉ missing → entries slot.name = none) →
      (∀ slot ∈ missing, slot ∈ slots) →
      (members (slots.map Slot.field) (missing.map Slot.field) record given = .ok value ↔
        ∀ slot ∈ slots, slot.Completes record value (slot ∈ missing) (entries slot.name))
  | .closed, missing, record, entries, hdenotes, hdepth, hmet, hmissing => by
    cases hdenotes with
    | closed hnone =>
      simp only [hnone]
      exact h.members_closed_eq_ok_iff hmissing
  | .more (some key) document rest, missing, record, entries, hdenotes, hdepth, hmet, hmissing => by
    cases hdenotes with
    | @more _ _ json _ _ others hvalue hrest hnew hentries =>
    obtain ⟨hvalueDepth, hrestDepth⟩ := Nat.max_le.mp hdepth
    by_cases hknown : ∃ slot ∈ slots, slot.name = key
    · -- Something stands under the key, so its field is still missing, and it is read.
      obtain ⟨slot, hslot, rfl⟩ := hknown
      have hgiven : entries slot.name = some json := by rw [hentries, if_pos rfl]
      have hfresh : slot ∈ missing := by
        by_contra hnot
        rw [hmet slot hslot hnot] at hgiven
        cases hgiven
      have hnext : ∀ after, members (slots.map Slot.field)
          ((missing.filter fun other => other.name ≠ slot.name).map Slot.field) after rest =
            .ok value ↔ ∀ other ∈ slots, other.Completes after value
              (other ∈ missing.filter fun other => other.name ≠ slot.name) (others other.name) := by
        intro after
        refine h.members_eq_ok_iff rest hrest hrestDepth (fun other hother hnot => ?_)
          fun other hother => hmissing other (List.mem_of_mem_filter hother)
        by_cases hname : other.name = slot.name
        · rw [hname, hnew]
        · have hmetOther : other ∉ missing := fun hmem =>
            hnot (List.mem_filter.mpr ⟨hmem, decide_eq_true hname⟩)
          rw [← hmet other hother hmetOther, hentries, if_neg hname]
      rw [h.members_known hslot hfresh]
      simp only [bind_eq_ok_iff, map_eq_ok_iff, h.reads slot hslot hvalue hvalueDepth, hnext]
      constructor
      · rintro ⟨_, ⟨given, hspelled, rfl⟩, hall⟩ other hother
        obtain ⟨rfl, hothers⟩ := (h.completes_set_iff hslot hnew hentries given).mp hall
        by_cases hname : other.name = slot.name
        · rw [h.eq_of_name_eq hother hslot hname, hgiven]
          exact hspelled
        · exact hothers other hother hname
      · intro hall
        have hspelled := hall slot hslot
        rw [hgiven] at hspelled
        exact ⟨_, ⟨_, hspelled, rfl⟩, (h.completes_set_iff hslot hnew hentries _).mpr
          ⟨rfl, fun other hother _ => hall other hother⟩⟩
    · -- No field looks at what stands under an unknown key.
      have hunknown : ∀ slot ∈ slots, slot.name ≠ key := fun slot hslot hname =>
        hknown ⟨slot, hslot, hname⟩
      have hothers : ∀ slot ∈ slots, entries slot.name = others slot.name := fun slot hslot =>
        (hentries slot.name).trans (if_neg (hunknown slot hslot))
      rw [members_unknown rest hunknown hvalue.isWhole, h.members_eq_ok_iff rest hrest hrestDepth
        (fun slot hslot hnot => hothers slot hslot ▸ hmet slot hslot hnot) hmissing]
      exact forall₂_congr fun slot hslot => by rw [hothers slot hslot]

/-! ## 4.  Arrays -/

/-- **Items are read in turn.**  Of the fields those before `later` have been read; those in `later`
still have their defaults. -/
theorem fieldItems_eq_ok_iff (h : Layout levels slots) {medium : Medium} {defaults value : σ}
    (later : List (Slot σ)) {earlier : List (Slot σ)} (hslots : earlier ++ later = slots)
    {given : Items} {values : List Json} (hdenotes : given.Denotes values)
    (hdepth : given.depth ≤ levels) {record : σ}
    (hlater : ∀ slot ∈ later, slot.get record = slot.get defaults) :
    fieldItems medium (later.map Slot.field) record given = .ok value ↔
      (∀ slot ∈ earlier, slot.get record = slot.get value) ∧
        Spelling.InOrder (later.map fun slot => slot.part defaults value) values := by
  induction later generalizing earlier given values record with
  | nil =>
    obtain rfl : earlier = slots := by rw [← hslots, List.append_nil]
    rw [← h.eq_iff]
    cases hdenotes with
    | closed => simp [fieldItems, Spelling.InOrder]
    | more => cases medium <;> simp [fieldItems, Spelling.InOrder]
  | cons slot later ih =>
    have hslots' : (earlier ++ [slot]) ++ later = slots := by
      rw [List.append_assoc]
      exact hslots
    rw [List.forall_mem_cons] at hlater
    cases hdenotes with
    | closed =>
      -- The array ends here: this field keeps its default, and so do all behind it.
      rw [List.map_cons, List.map_cons, Spelling.InOrder, Slot.part_isCutOff_iff, fieldItems]
      by_cases hpresence : slot.field.presence = .defaulted
      · rw [if_pos hpresence, ih hslots' .closed hdepth hlater.2, List.forall_mem_append]
        rw [List.forall_mem_singleton, hlater.1, eq_comm]
        exact ⟨fun ⟨⟨hearlier, hslot⟩, horder⟩ => ⟨hearlier, ⟨hpresence, hslot⟩, horder⟩,
          fun ⟨hearlier, ⟨_, hslot⟩, horder⟩ => ⟨⟨hearlier, hslot⟩, horder⟩⟩
      · rw [if_neg hpresence]
        simp [show slot.presence ≠ .defaulted from hpresence]
    | @more document json rest values hitem hrest =>
      obtain ⟨hitemDepth, hrestDepth⟩ := Nat.max_le.mp hdepth
      have hslot : slot ∈ slots := by simp [← hslots]
      have hkept : ∀ other ∈ earlier ++ later, ∀ given,
          other.get (slot.set record given) = other.get record := by
        have hapart := h.apart
        rw [← hslots, List.pairwise_middle fun hapart => Std.Symm.symm _ _ hapart,
          List.pairwise_cons] at hapart
        exact fun other hother given => (hapart.1 other hother).2.1 record given
      have hnext : ∀ given, fieldItems medium (later.map Slot.field) (slot.set record given) rest =
          .ok value ↔ (∀ other ∈ earlier ++ [slot],
            other.get (slot.set record given) = other.get value) ∧
              Spelling.InOrder (later.map fun slot => slot.part defaults value) values := by
        refine fun given => ih hslots' hrest hrestDepth fun other hother => ?_
        rw [hkept other (List.mem_append_right _ hother), hlater.2 other hother]
      have hread : ∀ given, (∀ other ∈ earlier ++ [slot],
          other.get (slot.set record given) = other.get value) ↔
            (∀ other ∈ earlier, other.get record = other.get value) ∧ given = slot.get value := by
        intro given
        rw [List.forall_mem_append, List.forall_mem_singleton, h.get_set slot hslot]
        exact and_congr_left fun _ => forall₂_congr fun other hother => by
          rw [hkept other (List.mem_append_left _ hother)]
      rw [List.map_cons, List.map_cons, Spelling.InOrder, fieldItems, Slot.part_spelling]
      simp only [bind_eq_ok_iff, Slot.field_read, map_eq_ok_iff,
        h.reads slot hslot hitem hitemDepth]
      constructor
      · rintro ⟨_, ⟨given, hspelled, rfl⟩, hgoesOn⟩
        obtain ⟨hall, horder⟩ := (hnext given).mp hgoesOn
        obtain ⟨hearlier, rfl⟩ := (hread given).mp hall
        exact ⟨hearlier, hspelled, horder⟩
      · rintro ⟨hearlier, hspelled, horder⟩
        exact ⟨_, ⟨_, hspelled, rfl⟩, (hnext _).mpr ⟨(hread _).mpr ⟨hearlier, rfl⟩, horder⟩⟩

end Layout

/-! ## 5.  Records -/

/-- Without levels no record is read, and none is spelled by a scalar. -/
theorem readsWithin_zero_record (medium : Medium) (fields : List (Field σ)) (defaults : σ)
    (parts : σ → List Spelling.Part) :
    ReadsWithin 0 (record medium 0 fields defaults) fun value =>
      Spelling.ofRecord (parts value) := by
  intro document json hdenotes hdepth value
  cases hdenotes with
  | array => exact absurd hdepth (Nat.not_succ_le_zero _)
  | object => exact absurd hdepth (Nat.not_succ_le_zero _)
  | _ => simp [record, Spelling.ofRecord]

/-- **A record is read from its spellings**, where its fields can be entered with one level less. -/
theorem Layout.readsWithin_record {levels : Nat} {slots : List (Slot σ)} (h : Layout levels slots)
    (medium : Medium) (defaults : σ) :
    ReadsWithin (levels + 1) (record medium (levels + 1) (slots.map Slot.field) defaults)
      fun value => Spelling.ofRecord (slots.map fun slot => slot.part defaults value) := by
  intro document json hdenotes hdepth value
  cases hdenotes with
  | array hitems =>
    rw [record, if_neg (Nat.succ_ne_zero levels),
      h.fieldItems_eq_ok_iff slots (List.nil_append slots) hitems (Nat.le_of_succ_le_succ hdepth)
        fun _ _ => rfl]
    simp [Spelling.ofRecord]
  | @object given values hmembers =>
    rw [record, if_neg (Nat.succ_ne_zero levels), h.members_eq_ok_iff given hmembers
      (Nat.le_of_succ_le_succ hdepth) (fun _ hslot hnot => absurd hslot hnot) fun _ hslot => hslot]
    simp only [Spelling.ofRecord, List.forall_mem_map]
    refine forall₂_congr fun slot hslot => ?_
    rw [Spelling.Part.InObject, Slot.part_name]
    cases Json.member? slot.name values with
    | some json => simp [Slot.Completes]
    | none => simp [Slot.Completes, Slot.part_isLeftOut_iff, hslot, eq_comm]
  | _ => simp [record, Spelling.ofRecord]

/-- A reader of records, each of whose fields is read one level below. -/
theorem reads_record {slots : Medium → Nat → List (Slot σ)} {defaults : σ}
    {parts : σ → List Spelling.Part} (h : ∀ medium levels, Layout levels (slots medium levels))
    (hparts : ∀ medium levels value,
      (slots medium levels).map (fun slot => slot.part defaults value) = parts value) :
    Reads (fun medium levels =>
        record medium levels ((slots medium (levels - 1)).map Slot.field) defaults)
      fun value => Spelling.ofRecord (parts value) := by
  rintro medium (_ | levels)
  · exact readsWithin_zero_record medium _ defaults parts
  · have hread := (h medium levels).readsWithin_record medium defaults
    simp only [hparts] at hread
    exact hread

end Reader
end WithdrawalCascade
