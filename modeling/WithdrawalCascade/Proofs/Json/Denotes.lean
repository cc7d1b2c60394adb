import WithdrawalCascade.Json.Value

/-!
# What a document denotes

A JSON value and a JSON text both become a document before a form is read from it, and they become
different ones: the members of a value come by ascending key, those of a text as they were written.
What the two have in common is that each gives every key once and the same under it.  That is when a
document denotes a value (`Document.Denotes`); of an object it looks at nothing but what stands
under each key (`Json.member?`), so the order of the members is immaterial.

The document of a value denotes it (`Json.denotes_document`), and so does the document of a text
whose value gives no key twice (`Document.denotes_of_json?`).  What readers accept can therefore be
stated of values alone.
-/

namespace WithdrawalCascade

/-- What stands under a key among the members of an object.  Of members with one key the last
stands. -/
def Json.member? (key : String) : List (String × Json) → Option Json
  | [] => none
  | (other, value) :: members =>
    (member? key members).or (if other = key then some value else none)

mutual

/-- A document gives a value, with the members of every object in any order but each key once. -/
inductive Document.Denotes : Document → Json → Prop where
  | null : Document.Denotes .null .null
  | bool (value : Bool) : Document.Denotes (.bool value) (.bool value)
  | number (numeral : String) : Document.Denotes (.number numeral) (.number numeral)
  | string (value : String) : Document.Denotes (.string (some value)) (.string value)
  | array {items : Items} {values : List Json} :
      Items.Denotes items values → Document.Denotes (.array items) (.array values)
  | object {members : Members} {values : List (String × Json)} :
      Members.Denotes members (fun key => Json.member? key values) →
      Document.Denotes (.object members) (.object values)

/-- Items give values, one each. -/
inductive Items.Denotes : Items → List Json → Prop where
  | closed : Items.Denotes .closed []
  | more {item : Document} {value : Json} {rest : Items} {values : List Json} :
      Document.Denotes item value → Items.Denotes rest values →
      Items.Denotes (.more item rest) (value :: values)

/-- Members give what `entries` says to stand under each key. -/
inductive Members.Denotes : Members → (String → Option Json) → Prop where
  | closed {entries : String → Option Json} :
      (∀ key, entries key = none) → Members.Denotes .closed entries
  | more {key : String} {value : Document} {json : Json} {rest : Members}
      {entries others : String → Option Json} :
      Document.Denotes value json → Members.Denotes rest others → others key = none →
      (∀ other, entries other = if other = key then some json else others other) →
      Members.Denotes (.more (some key) value rest) entries

end

/-- What is said under each key is all that counts. -/
theorem Members.Denotes.congr {members : Members} {entries others : String → Option Json}
    (h : members.Denotes entries) (hsame : ∀ key, others key = entries key) :
    members.Denotes others := by
  cases h with
  | closed hnone => exact .closed fun key => (hsame key).trans (hnone key)
  | more hvalue hrest hnew hentries =>
    exact .more hvalue hrest hnew fun other => (hsame other).trans (hentries other)

mutual

/-- What denotes a value is JSON to its end. -/
theorem Document.Denotes.isWhole {document : Document} {json : Json} :
    document.Denotes json → document.isWhole = true
  | .null | .bool _ | .number _ | .string _ => rfl
  | .array hitems => hitems.isWhole
  | .object hmembers => hmembers.isWhole

theorem Items.Denotes.isWhole {items : Items} {values : List Json} :
    items.Denotes values → items.isWhole = true
  | .closed => rfl
  | .more hitem hrest => by rw [Items.isWhole, hitem.isWhole, hrest.isWhole, Bool.and_self]

theorem Members.Denotes.isWhole {members : Members} {entries : String → Option Json} :
    members.Denotes entries → members.isWhole = true
  | .closed _ => rfl
  | .more hvalue hrest _ _ => by
    rw [Members.isWhole, hvalue.isWhole, hrest.isWhole, Bool.and_self]

end

/-! ## 1.  Ascending keys -/

namespace Members

/-- Whether one of the members has the key. -/
def HasKey (key : String) : Members → Prop
  | .more other _ rest => other = some key ∨ rest.HasKey key
  | _ => False

/-- Whether every member has a key that is less than those behind it. -/
def Ascends : Members → Prop
  | .more (some key) _ rest => (∀ other, rest.HasKey other → key < other) ∧ rest.Ascends
  | .more none _ _ => False
  | _ => True

theorem hasKey_of_hasKey_insert {key other : String} {value : Document} {members : Members}
    (h : (members.insert key value).HasKey other) : other = key ∨ members.HasKey other := by
  fun_induction insert key value members with
  | case1 held rest =>
    rcases h with hfirst | hrest
    · exact .inl (Option.some.inj hfirst).symm
    · exact .inr (.inr hrest)
  | case2 first held rest hne hlt =>
    rcases h with hfirst | hrest
    · exact .inl (Option.some.inj hfirst).symm
    · exact .inr hrest
  | case3 first held rest hne hlt ih =>
    rcases h with hfirst | hrest
    · exact .inr (.inl hfirst)
    · exact (ih hrest).imp_right .inr
  | case4 ending hending =>
    rcases h with hfirst | hrest
    · exact .inl (Option.some.inj hfirst).symm
    · exact .inr hrest

/-- Setting a member keeps the keys ascending. -/
theorem ascends_insert {key : String} {value : Document} {members : Members}
    (h : members.Ascends) : (members.insert key value).Ascends := by
  fun_induction insert key value members with
  | case1 held rest => exact h
  | case2 first held rest hne hlt =>
    refine ⟨?_, h⟩
    rintro other (hfirst | hrest)
    · exact Option.some.inj hfirst ▸ hlt
    · exact String.lt_trans hlt (h.1 other hrest)
  | case3 first held rest hne hlt ih =>
    refine ⟨?_, ih h.2⟩
    intro other hother
    rcases hasKey_of_hasKey_insert hother with rfl | hrest
    · exact Std.lt_of_le_of_ne hlt (Ne.symm hne)
    · exact h.1 other hrest
  | case4 ending hending =>
    cases ending with
    | closed => exact ⟨fun _ hnone => hnone.elim, trivial⟩
    | broken => exact ⟨fun _ hnone => hnone.elim, trivial⟩
    | more first held rest =>
      cases first with
      | none => exact h.elim
      | some first => exact (hending first held rest rfl).elim

/-- Nothing stands under a key that no member has. -/
theorem Denotes.eq_none {members : Members} {entries : String → Option Json} {key : String} :
    members.Denotes entries → ¬ members.HasKey key → entries key = none
  | .closed hnone, _ => hnone key
  | .more hvalue hrest hnew hentries, hkey => by
    obtain ⟨hfirst, hothers⟩ := not_or.mp hkey
    rw [hentries, if_neg fun heq => hfirst (congrArg some heq.symm)]
    exact hrest.eq_none hothers

/-- Setting a member puts its value under its key. -/
theorem denotes_insert {key : String} {value : Document} {json : Json} {members : Members}
    {entries : String → Option Json} (hvalue : value.Denotes json) (h : members.Denotes entries)
    (hascends : members.Ascends) :
    (members.insert key value).Denotes fun other =>
      if other = key then some json else entries other := by
  fun_induction insert key value members generalizing entries with
  | case1 held rest =>
    cases h with
    | more hheld hrest hnew hentries =>
      refine .more hvalue hrest hnew fun other => ?_
      rw [hentries]
      by_cases hother : other = key <;> simp [hother]
  | case2 first held rest hne hlt =>
    -- The keys ascend, so one that is less than the first is not there yet.
    have hnew : ¬ Members.HasKey key (.more (some first) held rest) := by
      rintro (hfirst | hrest)
      · exact hne (Option.some.inj hfirst).symm
      · exact String.lt_irrefl key (String.lt_trans hlt (hascends.1 key hrest))
    exact .more hvalue h (h.eq_none hnew) fun _ => rfl
  | case3 first held rest hne hlt ih =>
    cases h with
    | more hheld hrest hnew hentries =>
      refine .more hheld (ih hrest hascends.2) ?_ fun other => ?_
      · rw [if_neg (Ne.symm hne), hnew]
      · rw [hentries]
        by_cases hother : other = first
        · rw [if_pos hother, if_pos hother, if_neg (hother ▸ Ne.symm hne)]
        · rw [if_neg hother, if_neg hother]
  | case4 ending hending =>
    cases h with
    | closed hnone => exact .more hvalue (.closed hnone) (hnone key) fun _ => rfl
    | more => exact (hending _ _ _ rfl).elim

end Members

/-! ## 2.  The document of a value -/

mutual

/-- **The document of a value denotes it.** -/
theorem Json.denotes_document : (json : Json) → json.document.Denotes json
  | .null => .null
  | .bool value => .bool value
  | .number numeral => .number numeral
  | .string value => .string value
  | .array items => .array (Json.denotes_itemsOf items)
  | .object members =>
    .object ((Json.denotes_membersOf members (.closed fun _ => rfl) trivial).congr fun _ =>
      Option.or_none.symm)

theorem Json.denotes_itemsOf : (items : List Json) → (Json.itemsOf items).Denotes items
  | [] => .closed
  | item :: items => .more item.denotes_document (Json.denotes_itemsOf items)

/-- Members that are set one after the other stand over those already there. -/
theorem Json.denotes_membersOf {sorted : Members} {entries : String → Option Json} :
    (members : List (String × Json)) → sorted.Denotes entries → sorted.Ascends →
      (Json.membersOf sorted members).Denotes fun key =>
        (Json.member? key members).or (entries key)
  | [], h, _ => h
  | (key, value) :: members, h, hascends => by
    have hset : (sorted.insert key value.document).Denotes fun other =>
        if other = key then some value else entries other :=
      Members.denotes_insert value.denotes_document h hascends
    refine (Json.denotes_membersOf members hset (Members.ascends_insert hascends)).congr ?_
    intro other
    rw [Json.member?, Option.or_assoc]
    by_cases hother : other = key
    · simp [hother]
    · simp [hother, Ne.symm hother]

end

/-! ## 3.  The document of a text -/

/-- Nothing stands under a key exactly if no member has it. -/
theorem Json.member?_eq_none_iff {key : String} {members : List (String × Json)} :
    Json.member? key members = none ↔ ∀ member ∈ members, member.1 ≠ key := by
  induction members with
  | nil => simp [Json.member?]
  | cons first rest ih =>
    rw [Json.member?, Option.or_eq_none_iff, ih, List.forall_mem_cons, and_comm]
    simp

mutual

/-- **A document denotes its value** if the value gives no key twice. -/
theorem Document.denotes_of_json? {json : Json} :
    (document : Document) → document.json? = some json → json.HasDistinctKeys →
      document.Denotes json
  | .null, h, _ => by
    cases h
    exact .null
  | .bool value, h, _ => by
    cases h
    exact .bool value
  | .number numeral, h, _ => by
    rw [Document.json?] at h
    split at h
    · cases h
      exact .number numeral
    · cases h
  | .string value, h, _ => by
    cases value with
    | none => cases h
    | some text =>
      cases h
      exact .string text
  | .array items, h, hkeys => by
    obtain ⟨values, hvalues, rfl⟩ := Option.map_eq_some_iff.mp h
    exact .array (Items.denotes_of_json? items hvalues hkeys)
  | .object members, h, hkeys => by
    obtain ⟨values, hvalues, rfl⟩ := Option.map_eq_some_iff.mp h
    exact .object (Members.denotes_of_json? members hvalues hkeys.1 hkeys.2)
  | .broken, h, _ => by cases h

theorem Items.denotes_of_json? {values : List Json} :
    (items : Items) → items.json? = some values → Json.ItemsHaveDistinctKeys values →
      items.Denotes values
  | .closed, h, _ => by
    cases h
    exact .closed
  | .broken, h, _ => by cases h
  | .more item rest, h, hkeys => by
    obtain ⟨value, hvalue, others, hothers, rfl⟩ : ∃ value, item.json? = some value ∧
        ∃ others, rest.json? = some others ∧ value :: others = values := by
      simpa [Items.json?, Option.bind_eq_some_iff] using h
    exact .more (Document.denotes_of_json? item hvalue hkeys.1)
      (Items.denotes_of_json? rest hothers hkeys.2)

theorem Members.denotes_of_json? {values : List (String × Json)} :
    (members : Members) → members.json? = some values → (values.map (·.1)).Nodup →
      Json.MembersHaveDistinctKeys values →
      members.Denotes fun key => Json.member? key values
  | .closed, h, _, _ => by
    cases h
    exact .closed fun _ => rfl
  | .broken, h, _, _ => by cases h
  | .more key value rest, h, hnodup, hkeys => by
    obtain ⟨key, rfl, json, hjson, others, hothers, rfl⟩ : ∃ text, key = some text ∧
        ∃ json, value.json? = some json ∧
          ∃ others, rest.json? = some others ∧ (text, json) :: others = values := by
      simpa [Members.json?, Option.bind_eq_some_iff] using h
    obtain ⟨hfirst, hdistinct⟩ := List.nodup_cons.mp hnodup
    have hnew : Json.member? key others = none :=
      Json.member?_eq_none_iff.mpr fun member hmember hkey =>
        hfirst (List.mem_map.mpr ⟨member, hmember, hkey⟩)
    refine .more (Document.denotes_of_json? value hjson hkeys.1)
      (Members.denotes_of_json? rest hothers hdistinct hkeys.2) hnew ?_
    intro other
    rw [Json.member?]
    by_cases hother : key = other
    · rw [if_pos hother, if_pos hother.symm, ← hother, hnew]
      rfl
    · rw [if_neg hother, if_neg (Ne.symm hother), Option.or_none]

end

end WithdrawalCascade
