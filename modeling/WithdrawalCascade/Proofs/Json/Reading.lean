import Mathlib.Data.List.Forall2
import Mathlib.Data.List.Nodup
import WithdrawalCascade.Json.Reader
import WithdrawalCascade.Proofs.Json.Denotes

/-!
# What readers accept

A form is read from a document, but what is read can be said of the value that the document denotes:
of whatever the document was made, and in whatever order its members come, a reader accepts it
exactly if the value is a spelling of what is read (`Reader.Reads`).  The one condition is that
there are levels enough to enter all that lies inside one another.

This file has the parts that are no records: scalars, what may be absent (`Reader.Reads.nullable`),
names (`Reader.reads_oneOf`) and lists (`Reader.ReadsWithin.list`).  It ends with whole inputs: a
value is read exactly if it is a spelling (`Reader.Reads.ofJson_iff`), and a text exactly if what it
denotes is one (`Reader.Reads.ofTextWithin_iff`).
-/

namespace WithdrawalCascade

/-! ## 1.  Spellings -/

namespace Spelling

variable {α : Type}

/-- The spellings of a name: the name itself, and an object with the name as its one key and `null`
under it. -/
def ofName (name : String) : Json → Prop
  | .string text => text = name
  | .object members =>
    Json.member? name members = some .null ∧ ∀ member ∈ members, member.1 = name
  | _ => False

/-- The spellings of what may be absent: `null` for absence. -/
def ofOption (spelling : α → Json → Prop) : Option α → Json → Prop
  | none, json => json = .null
  | some value, json => spelling value json

end Spelling

namespace Reader

variable {α : Type}

/-- Of the documents that are no deeper than so many levels, exactly those of spellings are read,
and each is read as what it spells. -/
def ReadsWithin (levels : Nat) (read : Document → Except ReadError α)
    (spelling : α → Json → Prop) : Prop :=
  ∀ ⦃document : Document⦄ ⦃json : Json⦄, document.Denotes json → document.depth ≤ levels →
    ∀ value, read document = .ok value ↔ spelling value json

/-- A reader accepts exactly the spellings of what it reads, from either medium. -/
def Reads (reader : Reader α) (spelling : α → Json → Prop) : Prop :=
  ∀ medium levels, ReadsWithin levels (reader medium levels) spelling

theorem map_eq_ok_iff {ε β : Type} {read : Except ε α} {f : α → β} {result : β} :
    read.map f = .ok result ↔ ∃ value, read = .ok value ∧ f value = result := by
  cases read <;> simp [Except.map]

theorem bind_eq_ok_iff {ε β : Type} {read : Except ε α} {next : α → Except ε β} {result : β} :
    (read >>= next) = .ok result ↔ ∃ value, read = .ok value ∧ next value = .ok result := by
  cases read <;> simp [bind, Except.bind]

/-! ## 2.  Scalars -/

theorem reads_bool : Reads bool fun value json => json = .bool value := by
  intro medium levels document json hdenotes hdepth value
  cases hdenotes <;> simp [bool]

theorem reads_string : Reads string fun value json => json = .string value := by
  intro medium levels document json hdenotes hdepth value
  cases hdenotes <;> simp [string]

theorem nullable_eq_map {reader : Reader α} {medium : Medium} {levels : Nat} {document : Document}
    (h : document ≠ .null) :
    nullable reader medium levels document = (reader medium levels document).map some := by
  cases document with
  | null => exact absurd rfl h
  | _ => rfl

/-- What may be absent is read from `null`, if nothing that is there is spelled so. -/
theorem Reads.nullable {reader : Reader α} {spelling : α → Json → Prop}
    (h : Reads reader spelling) (hnull : ∀ value, ¬ spelling value .null) :
    Reads (nullable reader) (Spelling.ofOption spelling) := by
  intro medium levels document json hdenotes hdepth value
  by_cases habsent : document = .null
  · subst habsent
    cases hdenotes
    cases value <;> simp [Reader.nullable, Spelling.ofOption, hnull]
  · rw [nullable_eq_map habsent, map_eq_ok_iff]
    cases value with
    | none =>
      have hpresent : json ≠ .null := by
        rintro rfl
        cases hdenotes
        exact habsent rfl
      simp [Spelling.ofOption, hpresent]
    | some value =>
      simp only [Option.some.injEq, exists_eq_right, Spelling.ofOption]
      exact h medium levels hdenotes hdepth value

/-! ## 3.  Names -/

/-- A table of all values by name has each value under its name. -/
theorem lookup_names_eq_some_iff {all : List α} {name : α → String} (hall : ∀ value, value ∈ all)
    (hnames : (all.map name).Nodup) {text : String} {value : α} :
    (all.map fun value => (name value, value)).lookup text = some value ↔ text = name value := by
  have hfind : (all.map fun value => (name value, value)).lookup text =
      all.find? fun value => name value = text := by
    clear hall hnames
    induction all with
    | nil => rfl
    | cons first rest ih =>
      rw [List.map_cons, List.lookup_cons, List.find?_cons, ih]
      by_cases hfirst : name first = text
      · simp [hfirst]
      · simp [hfirst, beq_eq_false_iff_ne.mpr (Ne.symm hfirst)]
  rw [hfind]
  constructor
  · intro hsome
    have hvalue : name value = text := by simpa using List.find?_some hsome
    exact hvalue.symm
  · rintro rfl
    cases hsome : all.find? fun other => name other = name value with
    | none => exact absurd (decide_eq_true rfl) (List.find?_eq_none.mp hsome value (hall value))
    | some other =>
      have hother : name other = name value := by simpa using List.find?_some hsome
      exact congrArg some (List.inj_on_of_nodup_map hnames (hall other) (hall value) hother)

theorem named_eq_ok_iff {table : List (String × α)} {name : String} {value : α} :
    named table name = .ok value ↔ table.lookup name = some value := by
  rw [named]
  cases table.lookup name <;> simp

/-- Both media take the same members for a name. -/
theorem nameInObject_eq_ok_iff {table : List (String × α)} {medium : Medium} {members : Members}
    {value : α} :
    nameInObject table medium members = .ok value ↔
      ∃ name, table.lookup name = some value ∧ members = .more (some name) .null .closed := by
  constructor
  · intro hread
    rcases members with _ | _ | ⟨_ | name, member, rest⟩
    · cases medium <;> cases hread
    · cases medium <;> cases hread
    · cases medium <;> cases hread
    · cases medium with
      | value =>
        cases rest with
        | closed =>
          obtain ⟨entry, hentry, hmember⟩ := bind_eq_ok_iff.mp hread
          cases member <;> cases hmember
          exact ⟨name, named_eq_ok_iff.mp hentry, rfl⟩
        | broken => cases hread
        | more => cases hread
      | text =>
        obtain ⟨entry, hentry, hmember⟩ := bind_eq_ok_iff.mp hread
        cases member <;> cases rest <;> cases hmember
        exact ⟨name, named_eq_ok_iff.mp hentry, rfl⟩
  · rintro ⟨name, hname, rfl⟩
    rw [← named_eq_ok_iff] at hname
    cases medium <;> simp [nameInObject, hname, bind, Except.bind]

/-- The members that are one key with `null` under it. -/
theorem eq_single_iff {name : String} {members : Members} {entries : String → Option Json}
    (h : members.Denotes entries) :
    members = .more (some name) .null .closed ↔
      entries name = some .null ∧ ∀ key, key ≠ name → entries key = none := by
  constructor
  · rintro rfl
    cases h with
    | more hvalue hrest hnew hentries =>
      cases hvalue
      cases hrest with
      | closed hnone =>
        refine ⟨by rw [hentries, if_pos rfl], fun key hkey => ?_⟩
        rw [hentries, if_neg hkey, hnone]
  · rintro ⟨hnull, hnone⟩
    cases h with
    | closed hclosed =>
      rw [hclosed] at hnull
      cases hnull
    | @more key value json rest _ others hvalue hrest hnew hentries =>
      -- Whatever key comes first or second is given, and only the name may be.
      have hkey : key = name := by
        by_contra hkey
        have hgiven := hentries key
        rw [hnone key hkey, if_pos rfl] at hgiven
        cases hgiven
      subst hkey
      rw [hentries, if_pos rfl] at hnull
      cases hnull
      cases hvalue
      cases hrest with
      | closed => rfl
      | @more other _ json _ _ _ _ _ _ hothers =>
        have hgiven : others other = some json := by rw [hothers, if_pos rfl]
        have hne : other ≠ key := by
          rintro rfl
          rw [hnew] at hgiven
          cases hgiven
        have habsent := hentries other
        rw [hnone other hne, if_neg hne, hgiven] at habsent
        cases habsent

/-- All keys are one name exactly if nothing stands under any other key. -/
theorem forall_key_eq_iff {name : String} {members : List (String × Json)} :
    (∀ member ∈ members, member.1 = name) ↔
      ∀ key, key ≠ name → Json.member? key members = none := by
  simp only [Json.member?_eq_none_iff]
  constructor
  · intro hall key hkey member hmember heq
    exact hkey (heq.symm.trans (hall member hmember))
  · intro hnone member hmember
    by_contra hkey
    exact hnone member.1 hkey member hmember rfl

/-- **Names are read from their spellings.** -/
theorem reads_oneOf {table : List (String × α)} {name : α → String}
    (htable : ∀ {text value}, table.lookup text = some value ↔ text = name value) :
    Reads (oneOf table) fun value => Spelling.ofName (name value) := by
  intro medium levels document json hdenotes hdepth value
  cases hdenotes with
  | string text =>
    rw [oneOf, named_eq_ok_iff, htable]
    exact Iff.rfl
  | @object members values hmembers =>
    have hlevels : levels ≠ 0 := Nat.ne_of_gt (Nat.lt_of_lt_of_le (Nat.succ_pos _) hdepth)
    rw [oneOf, if_neg hlevels, nameInObject_eq_ok_iff]
    simp only [htable, exists_eq_left]
    rw [eq_single_iff hmembers, Spelling.ofName, forall_key_eq_iff]
  | _ => cases medium <;> simp [oneOf, Spelling.ofName]

/-! ## 4.  Lists -/

/-- The items of an array are read if each is. -/
theorem ReadsWithin.items_eq_ok_iff {levels : Nat} {read : Document → Except ReadError α}
    {spelling : α → Json → Prop} (h : ReadsWithin levels read spelling) {given : Items}
    {values : List Json} (hdenotes : given.Denotes values) (hdepth : given.depth ≤ levels)
    (results : List α) :
    items read given = .ok results ↔ List.Forall₂ spelling results values := by
  fun_induction items read given generalizing values results with
  | case1 =>
    cases hdenotes
    simp [eq_comm]
  | case2 => cases hdenotes
  | case3 document rest ih =>
    cases hdenotes with
    | more hfirst hrest =>
      obtain ⟨hfirstDepth, hrestDepth⟩ := Nat.max_le.mp hdepth
      simp only [bind_eq_ok_iff, h hfirst hfirstDepth, ih hrest hrestDepth, Except.ok.injEq]
      cases results <;> simp

/-- **Lists are read from arrays**, each item from a spelling of it. -/
theorem ReadsWithin.list {levels : Nat} {item : Document → Except ReadError α}
    {spelling : α → Json → Prop} (h : ReadsWithin levels item spelling) :
    ReadsWithin (levels + 1) (list (levels + 1) item) fun results json =>
      ∃ values, json = .array values ∧ List.Forall₂ spelling results values := by
  intro document json hdenotes hdepth results
  cases hdenotes with
  | array hitems =>
    rw [Reader.list, if_neg (Nat.succ_ne_zero levels),
      h.items_eq_ok_iff hitems (Nat.le_of_succ_le_succ hdepth)]
    simp
  | _ => simp [Reader.list]

/-- Without levels no list is read, and none is spelled by anything but an array. -/
theorem readsWithin_zero_list (item : Document → Except ReadError α)
    (spelling : α → Json → Prop) :
    ReadsWithin 0 (Reader.list 0 item) fun results json =>
      ∃ values, json = .array values ∧ List.Forall₂ spelling results values := by
  intro document json hdenotes hdepth results
  cases hdenotes with
  | array => exact absurd hdepth (Nat.not_succ_le_zero _)
  | _ => simp [Reader.list]

/-! ## 5.  Whole inputs -/

/-- **A value is read exactly if it is a spelling.** -/
theorem Reads.ofJson_iff {reader : Reader α} {spelling : α → Json → Prop}
    (h : Reads reader spelling) (json : Json) (value : α) : ofJson reader json = .ok value ↔ spelling value json :=
  h .value json.document.depth json.denotes_document (Nat.le_refl _) value

/-- **A text is read exactly if what it denotes is a spelling.** -/
theorem Reads.ofTextWithin_iff {reader : Reader α} {spelling : α → Json → Prop}
    (h : Reads reader spelling) {text : String} {document : Document} {json : Json}
    (htext : Document.ofText text = (document, true)) (hdenotes : document.Denotes json)
    {levels : Nat} (hdepth : document.depth ≤ levels) (value : α) :
    ofTextWithin levels reader text = .ok value ↔ spelling value json := by
  rw [ofTextWithin, htext]
  simp only [bind_eq_ok_iff, if_true, Except.ok.injEq, exists_eq_right]
  exact h .text levels hdenotes hdepth value

end Reader
end WithdrawalCascade
