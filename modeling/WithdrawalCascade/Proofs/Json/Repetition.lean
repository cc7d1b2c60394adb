import WithdrawalCascade.Proofs.Json.Reading

/-!
# Repeated fields are refused

Reading the object of a record keeps a list of the fields that have not been met yet, so it gets to
the end only if no field is met twice (`not_givesTwice_of_record`).  What lies inside a field has
been read by then, too, from an object (`Reader.exists_read_of_gives`) as from an array; so the same
can be asked of it in turn (`Reader.exists_read_of_hasPart`).  None of this depends on what the
document was made from or on what the fields are.
-/

namespace WithdrawalCascade

/-! ## 1.  What a document gives -/

namespace Members

/-- Whether a key is given with a certain value. -/
def Gives (key : String) (value : Document) : Members → Prop
  | .more other held rest => (other = some key ∧ held = value) ∨ rest.Gives key value
  | _ => False

/-- Whether a key is given twice, whatever the values are. -/
def GivesTwice (key : String) : Members → Prop
  | .more other _ rest => (other = some key ∧ rest.HasKey key) ∨ rest.GivesTwice key
  | _ => False

end Members

namespace Items

/-- Whether a document stands at an index. -/
def HasAt (document : Document) : Nat → Items → Prop
  | 0, .more item _ => item = document
  | index + 1, .more _ rest => rest.HasAt document index
  | _, _ => False

/-- Whether a document is one of the items. -/
def Has (document : Document) : Items → Prop
  | .more item rest => item = document ∨ rest.Has document
  | _ => False

end Items

namespace Document

/-- Whether a document is an object that gives one of the names twice. -/
def RepeatsOneOf (names : List String) : Document → Prop
  | .object members => ∃ name ∈ names, members.GivesTwice name
  | _ => False

/-- Whether a document gives a part of a record, under its name or at its index. -/
def HasPart (document : Document) (name : String) (index : Nat) (part : Document) : Prop :=
  match document with
  | .object members => members.Gives name part
  | .array items => items.HasAt part index
  | _ => False

end Document

/-! ## 2.  Objects -/

namespace Reader

variable {α σ : Type} {fields missing : List (Field σ)} {record result : σ}

/-- What has been read once a member has been passed. -/
theorem exists_of_members_more {key : Option String} {value : Document} {rest : Members}
    (h : members fields missing record (.more key value rest) = .ok result) :
    ∃ name, key = some name ∧
      ((name ∉ fields.map Field.name ∧ members fields missing record rest = .ok result) ∨
        ∃ field ∈ fields, field.name = name ∧ name ∈ missing.map Field.name ∧
          ∃ after, field.read value record = .ok after ∧
            members fields (missing.filter fun field => field.name ≠ name) after rest =
              .ok result) := by
  cases key with
  | none => cases h
  | some name =>
    refine ⟨name, rfl, ?_⟩
    rw [members] at h
    cases hfind : fields.find? fun field => field.name = name with
    | none =>
      rw [hfind] at h
      have hunknown : name ∉ fields.map Field.name := by
        simpa using List.find?_eq_none.mp hfind
      simp only at h
      split at h
      · exact .inl ⟨hunknown, h⟩
      · cases h
    | some field =>
      rw [hfind] at h
      have hname : field.name = name := by simpa using List.find?_some hfind
      simp only at h
      split at h
      · rename_i hmissing
        obtain ⟨after, hread, hrest⟩ := bind_eq_ok_iff.mp h
        refine .inr ⟨field, List.mem_of_find?_eq_some hfind, hname, ?_, after, hread, hrest⟩
        simpa using hmissing
      · cases h

/-- A field that has been met before does not come again. -/
theorem not_hasKey_of_members {name : String} (hname : name ∈ fields.map Field.name) :
    (given : Members) → {missing : List (Field σ)} → {record : σ} →
      name ∉ missing.map Field.name → members fields missing record given = .ok result →
      ¬ given.HasKey name
  | .closed, _, _, _, _ => not_false
  | .broken, _, _, _, _ => not_false
  | .more key value rest, missing, record, hmet, h => by
    obtain ⟨other, rfl, ⟨hunknown, hrest⟩ | ⟨field, -, hfield, hmissing, after, -, hrest⟩⟩ :=
      exists_of_members_more h
    · rintro (hkey | hkey)
      · exact hunknown (Option.some.inj hkey ▸ hname)
      · exact not_hasKey_of_members hname rest hmet hrest hkey
    · rintro (hkey | hkey)
      · exact hmet (Option.some.inj hkey ▸ hmissing)
      · refine not_hasKey_of_members hname rest (fun hmem => hmet ?_) hrest hkey
        exact ((List.filter_sublist).map Field.name).subset hmem

/-- No field comes twice. -/
theorem not_givesTwice_of_members {name : String} (hname : name ∈ fields.map Field.name) :
    (given : Members) → {missing : List (Field σ)} → {record : σ} →
      members fields missing record given = .ok result → ¬ given.GivesTwice name
  | .closed, _, _, _ => not_false
  | .broken, _, _, _ => not_false
  | .more key value rest, missing, record, h => by
    obtain ⟨other, rfl, ⟨hunknown, hrest⟩ | ⟨field, -, hfield, -, after, -, hrest⟩⟩ :=
      exists_of_members_more h
    · rintro (⟨hkey, -⟩ | htwice)
      · exact hunknown (Option.some.inj hkey ▸ hname)
      · exact not_givesTwice_of_members hname rest hrest htwice
    · rintro (⟨hkey, hagain⟩ | htwice)
      · refine not_hasKey_of_members hname rest ?_ hrest hagain
        rw [← Option.some.inj hkey]
        simp
      · exact not_givesTwice_of_members hname rest hrest htwice

/-- What an object gives under the name of a field has been read as that field. -/
theorem exists_read_of_gives {name : String} (hname : name ∈ fields.map Field.name)
    {part : Document} :
    (given : Members) → {missing : List (Field σ)} → {record : σ} →
      members fields missing record given = .ok result → given.Gives name part →
      ∃ field ∈ fields, field.name = name ∧ ∃ before after, field.read part before = .ok after
  | .more key value rest, missing, record, h, hgives => by
    obtain ⟨other, rfl, ⟨hunknown, hrest⟩ | ⟨field, hfield, hfieldName, -, after, hread, hrest⟩⟩ :=
      exists_of_members_more h
    · rcases hgives with ⟨hkey, -⟩ | hgives
      · exact absurd (Option.some.inj hkey ▸ hname) hunknown
      · exact exists_read_of_gives hname rest hrest hgives
    · rcases hgives with ⟨hkey, rfl⟩ | hgives
      · exact ⟨field, hfield, hfieldName.trans (Option.some.inj hkey), record, after, hread⟩
      · exact exists_read_of_gives hname rest hrest hgives

/-! ## 3.  Arrays -/

/-- What an array gives at the index of a field has been read as that field. -/
theorem exists_read_of_hasAt {medium : Medium} {part : Document} {given : Items} {index : Nat}
    {field : Field σ} (h : fieldItems medium fields record given = .ok result)
    (hfield : fields[index]? = some field) (hpart : given.HasAt part index) :
    ∃ before after, field.read part before = .ok after := by
  induction fields generalizing given index record with
  | nil => cases hfield
  | cons first fields ih =>
    cases given with
    | closed => cases index <;> cases hpart
    | broken => cases h
    | more item rest =>
      obtain ⟨after, hread, hrest⟩ := bind_eq_ok_iff.mp h
      cases index with
      | zero =>
        cases hfield
        cases hpart
        exact ⟨record, after, hread⟩
      | succ index => exact ih hrest hfield hpart

/-- Each item of a list has been read. -/
theorem exists_read_of_has {item : Document → Except ReadError α} {document : Document} :
    (given : Items) → {results : List α} → items item given = .ok results → given.Has document →
      ∃ value, item document = .ok value
  | .more first rest, results, h, hdocument => by
    obtain ⟨value, hvalue, hothers⟩ := bind_eq_ok_iff.mp h
    obtain ⟨others, hothers, -⟩ := bind_eq_ok_iff.mp hothers
    rcases hdocument with rfl | hdocument
    · exact ⟨value, hvalue⟩
    · exact exists_read_of_has rest hothers hdocument

/-! ## 4.  Records -/

variable {medium : Medium} {levels : Nat} {defaults : σ} {document : Document}

/-- **No document that gives a field twice is read as a record.** -/
theorem not_repeatsOneOf_of_record
    (h : Reader.record medium levels fields defaults document = .ok result) :
    ¬ document.RepeatsOneOf (fields.map Field.name) := by
  cases document with
  | object given =>
    rintro ⟨name, hname, htwice⟩
    rw [Reader.record] at h
    split at h
    · cases h
    · exact not_givesTwice_of_members hname given h htwice
  | _ => exact not_false

/-- **Each part of a document that is read as a record has been read as a field.** -/
theorem exists_read_of_hasPart
    (h : Reader.record medium levels fields defaults document = .ok result) {name : String}
    {index : Nat} {part : Document} (hpart : document.HasPart name index part) {field : Field σ}
    (hfield : fields[index]? = some field) (hname : field.name = name)
    (hnames : (fields.map Field.name).Nodup) :
    ∃ before after, field.read part before = .ok after := by
  have hmem : field ∈ fields := List.mem_of_getElem? hfield
  cases document with
  | object given =>
    rw [Reader.record] at h
    split at h
    · cases h
    · obtain ⟨other, hother, hotherName, hread⟩ :=
        exists_read_of_gives (hname ▸ List.mem_map_of_mem hmem) given h hpart
      rwa [← List.inj_on_of_nodup_map hnames hother hmem (hotherName.trans hname.symm)]
  | array given =>
    rw [Reader.record] at h
    split at h
    · cases h
    · exact exists_read_of_hasAt h hfield hpart
  | _ => exact hpart.elim

end Reader
end WithdrawalCascade
