import Mathlib.Algebra.Ring.Nat
import Mathlib.Data.List.Induction
import WithdrawalCascade.EntityId.Spelling

/-!
# The forms of an identifier

An identifier has four forms (`EntityId.forms`).  A text is read as an identifier exactly if it is
one of them once its letters are in lower case (`EntityId.ofString?_eq_some_iff`).

Each reader of one form is settled first, from the digits up.  No form is as long as another, so it
does not matter in which order they are tried.
-/

namespace WithdrawalCascade

/-! ## 1.  Letter case -/

namespace Text

/-- What holds of the first hundred and twenty-eight characters holds of each that has so small a
code. -/
theorem forall_ascii {p : Char → Prop} (h : ∀ code : Fin 128, p (Char.ofNat code)) (c : Char)
    (hc : c.toNat < 128) : p c := by
  have hcode := h ⟨c.toNat, hc⟩
  rwa [Char.ofNat_toNat] at hcode

/-- Putting a character in lower case keeps it on its side of the bound. -/
theorem toNat_lt_of_toLower {c : Char} (h : c.toLower.toNat < 128) : c.toNat < 128 := by
  unfold Char.toLower at h
  split at h
  · rename_i hupper
    exact Nat.lt_of_le_of_lt (UInt32.le_iff_toNat_le.mp hupper.2) (by decide)
  · exact h

/-- The marks in the forms of an identifier have no case. -/
theorem toLower_eq_mark_iff {c mark : Char} (hmark : mark = '-' ∨ mark = '\x7b' ∨ mark = '\x7d') :
    c.toLower = mark ↔ c = mark := by
  have hascii : mark.toNat < 128 ∧ ∀ c : Char, c.toNat < 128 → (c.toLower = mark ↔ c = mark) := by
    rcases hmark with rfl | rfl | rfl
    · exact ⟨by decide, forall_ascii (by decide +kernel)⟩
    · exact ⟨by decide, forall_ascii (by decide +kernel)⟩
    · exact ⟨by decide, forall_ascii (by decide +kernel)⟩
  constructor
  · intro h
    exact (hascii.2 c (toNat_lt_of_toLower (h ▸ hascii.1))).mp h
  · intro h
    exact (hascii.2 c (h ▸ hascii.1)).mpr h

end Text

/-! ## 2.  Digits -/

namespace Hexadecimal

theorem toNat_lt_of_digitValue? {c : Char} {digit : Nat} (h : digitValue? c = some digit) :
    c.toNat < 128 := by
  have hbound : ∀ {last : Char}, last.toNat < 128 → c ≤ last → c.toNat < 128 :=
    fun hlast hle => Nat.lt_of_le_of_lt hle hlast
  unfold digitValue? at h
  split at h
  · rename_i hrange
    exact hbound (by decide) hrange.2
  split at h
  · rename_i hrange
    exact hbound (by decide) hrange.2
  split at h
  · rename_i hrange
    exact hbound (by decide) hrange.2
  · cases h

/-- A digit has the value that it is written for, in either case. -/
theorem digitValue?_eq_some_iff {c : Char} {digit : Nat} :
    digitValue? c = some digit ↔ digit < 16 ∧ c.toLower = Nat.digitChar digit := by
  have hless : ∀ c : Char, c.toNat < 128 → ∀ value ∈ digitValue? c, value < 16 :=
    Text.forall_ascii (by decide +kernel)
  have hsame : ∀ c : Char, c.toNat < 128 → ∀ value : Fin 16,
      digitValue? c = some value.val ↔ c.toLower = Nat.digitChar value :=
    Text.forall_ascii (by decide +kernel)
  have hsmall : ∀ value : Fin 16, (Nat.digitChar value).toNat < 128 := by
    decide
  constructor
  · intro h
    have hascii := toNat_lt_of_digitValue? h
    have hdigit := hless c hascii digit h
    exact ⟨hdigit, (hsame c hascii ⟨digit, hdigit⟩).mp h⟩
  · rintro ⟨hdigit, hlower⟩
    have hascii := Text.toNat_lt_of_toLower (hlower ▸ hsmall ⟨digit, hdigit⟩)
    exact (hsame c hascii ⟨digit, hdigit⟩).mpr hlower

/-- Digits are written in lower case. -/
theorem toLower_digitChar {digit : Nat} (h : digit < 16) :
    (Nat.digitChar digit).toLower = Nat.digitChar digit := by
  have hall : ∀ value : Fin 16, (Nat.digitChar value).toLower = Nat.digitChar value := by
    decide
  exact hall ⟨digit, h⟩

theorem digitValue?_digitChar {digit : Nat} (h : digit < 16) :
    digitValue? (Nat.digitChar digit) = some digit :=
  digitValue?_eq_some_iff.mpr ⟨h, toLower_digitChar h⟩

@[simp] theorem length_digits (count n : Nat) : (digits count n).length = count := by
  induction count generalizing n with
  | zero => rfl
  | succ count ih => simp [digits, ih]

theorem map_toLower_digits (count n : Nat) :
    (digits count n).map Char.toLower = digits count n := by
  induction count generalizing n with
  | zero => rfl
  | succ count ih =>
    rw [digits, List.map_append, ih, List.map_singleton,
      toLower_digitChar (Nat.mod_lt n (by decide))]

/-- What is written are digits. -/
theorem exists_eq_digitChar_of_mem_digits {c : Char} {count n : Nat} (h : c ∈ digits count n) :
    ∃ digit < 16, c = Nat.digitChar digit := by
  induction count generalizing n with
  | zero => exact absurd h List.not_mem_nil
  | succ count ih =>
    rcases List.mem_append.mp h with hfront | hlast
    · exact ih hfront
    · exact ⟨n % 16, Nat.mod_lt n (by decide), List.mem_singleton.mp hlast⟩

theorem valueFrom?_append (value : Nat) (first rest : List Char) :
    valueFrom? value (first ++ rest) =
      (valueFrom? value first).bind fun value => valueFrom? value rest := by
  induction first generalizing value with
  | nil => rfl
  | cons c first ih =>
    simp only [List.cons_append, valueFrom?, ih, Option.bind_assoc]

/-- **Digits are read as what they are written for**, in either case. -/
theorem valueFrom?_eq_some_iff {text : List Char} {n : Nat} :
    valueFrom? 0 text = some n ↔
      n < 16 ^ text.length ∧ text.map Char.toLower = digits text.length n := by
  induction text using List.reverseRecOn generalizing n with
  | nil => simp [valueFrom?, digits, eq_comm]
  | append_singleton text c ih =>
    have hparts : (text ++ [c]).map Char.toLower = digits (text ++ [c]).length n ↔
        text.map Char.toLower = digits text.length (n / 16) ∧
          c.toLower = Nat.digitChar (n % 16) := by
      rw [List.length_append, List.length_singleton, digits, List.map_append, List.map_singleton]
      constructor
      · intro h
        obtain ⟨htext, hlast⟩ := List.append_inj' h rfl
        exact ⟨htext, List.singleton_inj.mp hlast⟩
      · rintro ⟨htext, hlast⟩
        rw [htext, hlast]
    rw [hparts, valueFrom?_append, List.length_append, List.length_singleton, Nat.pow_succ]
    simp only [Option.bind_eq_some_iff, valueFrom?, ih, digitValue?_eq_some_iff]
    constructor
    · rintro ⟨value, ⟨hvalue, htext⟩, digit, ⟨hdigit, hlast⟩, heq⟩
      cases heq
      have hquotient : (16 * value + digit) / 16 = value := by omega
      have hremainder : (16 * value + digit) % 16 = digit := by omega
      rw [hquotient, hremainder]
      exact ⟨by omega, htext, hlast⟩
    · rintro ⟨hn, htext, hlast⟩
      exact ⟨n / 16, ⟨Nat.div_lt_of_lt_mul (by omega), htext⟩, n % 16,
        ⟨Nat.mod_lt n (by decide), hlast⟩, congrArg some (Nat.div_add_mod n 16)⟩

end Hexadecimal

/-! ## 3.  Hyphens -/

namespace EntityId

theorem hyphenate_cons {size : Nat} {sizes : List Nat} (hsizes : sizes ≠ []) (plain : List Char) :
    hyphenate (size :: sizes) plain =
      plain.take size ++ '-' :: hyphenate sizes (plain.drop size) := by
  cases sizes with
  | nil => exact absurd rfl hsizes
  | cons => rfl

/-- Hyphens are taken out where they are put in. -/
theorem unhyphenate?_eq_some_iff {sizes : List Nat} {text plain : List Char} :
    unhyphenate? sizes text = some plain ↔
      plain.length = sizes.sum ∧ text = hyphenate sizes plain := by
  fun_induction unhyphenate? sizes text generalizing plain with
  | case1 text hempty =>
    rw [List.isEmpty_iff.mp hempty, List.sum_nil, List.length_eq_zero_iff]
    simp [hyphenate, eq_comm]
  | case2 text hempty =>
    have hne : text ≠ [] := fun heq => hempty (heq ▸ rfl)
    simp [hyphenate, hne]
  | case3 text =>
    simp only [hyphenate, List.sum_singleton, Option.some.injEq]
    constructor
    · rintro rfl
      exact ⟨rfl, List.take_length.symm⟩
    · rintro ⟨hplain, htext⟩
      rw [htext, ← hplain, List.take_length]
  | case4 size text hlength =>
    simp only [hyphenate, List.sum_singleton, reduceCtorEq, false_iff]
    rintro ⟨hplain, htext⟩
    exact hlength (by rw [htext, ← hplain, List.take_length])
  | case5 size sizes text hsizes rest hdrop ih =>
    rw [hyphenate_cons hsizes, List.sum_cons]
    simp only [Option.map_eq_some_iff, ih]
    constructor
    · rintro ⟨others, ⟨hlength, rfl⟩, rfl⟩
      have hsize : (text.take size).length = size := by
        have hlong := congrArg List.length hdrop
        simp only [List.length_drop, List.length_cons] at hlong
        rw [List.length_take]
        omega
      rw [List.take_left' hsize, List.drop_left' hsize, List.length_append, hsize, hlength,
        ← hdrop, List.take_append_drop]
      exact ⟨rfl, rfl⟩
    · rintro ⟨hlength, htext⟩
      have hsize : (plain.take size).length = size := by
        rw [List.length_take]
        omega
      rw [htext, List.drop_left' hsize, List.cons_inj_right] at hdrop
      refine ⟨plain.drop size, ⟨by rw [List.length_drop, hlength, Nat.add_sub_cancel_left],
        hdrop.symm⟩, ?_⟩
      rw [htext, List.take_left' hsize, List.take_append_drop]
  | case6 size sizes text hsizes hdrop =>
    rw [hyphenate_cons hsizes, List.sum_cons]
    simp only [reduceCtorEq, false_iff]
    rintro ⟨hlength, rfl⟩
    have hsize : (plain.take size).length = size := by
      rw [List.length_take]
      omega
    exact hdrop _ (List.drop_left' hsize)

/-- Taking hyphens out does not depend on the case of letters. -/
theorem unhyphenate?_map_toLower (sizes : List Nat) (text : List Char) :
    unhyphenate? sizes (text.map Char.toLower) =
      (unhyphenate? sizes text).map (List.map Char.toLower) := by
  fun_induction unhyphenate? sizes text with
  | case1 text hempty => simp [unhyphenate?, List.isEmpty_iff.mp hempty]
  | case2 text hempty => simp [unhyphenate?, hempty]
  | case3 text => simp [unhyphenate?]
  | case4 size text hlength => simp [unhyphenate?, hlength]
  | case5 size sizes text hsizes rest hdrop ih =>
    rw [unhyphenate?, ← List.map_drop, hdrop]
    · have hmark : '-'.toLower = '-' := rfl
      simp [hmark, ih, Function.comp_def, List.map_take]
    · exact hsizes
  | case6 size sizes text hsizes hdrop =>
    rw [unhyphenate?, ← List.map_drop]
    · split
      · rename_i rest hlower
        obtain ⟨c, others, hothers, hmark, -⟩ := List.map_eq_cons_iff.mp hlower
        rw [Text.toLower_eq_mark_iff (.inl rfl)] at hmark
        exact (hdrop others (hmark ▸ hothers)).elim
      · rfl
    · exact hsizes

theorem map_toLower_hyphenate (sizes : List Nat) (plain : List Char) :
    (hyphenate sizes plain).map Char.toLower = hyphenate sizes (plain.map Char.toLower) := by
  fun_induction hyphenate sizes plain with
  | case1 => rfl
  | case2 => simp [hyphenate, List.map_take]
  | case3 size sizes plain hsizes ih =>
    simp [hyphenate, List.map_take, List.map_drop, ih]

theorem eq_hyphen_or_mem_of_mem_hyphenate {c : Char} {sizes : List Nat} {plain : List Char}
    (h : c ∈ hyphenate sizes plain) : c = '-' ∨ c ∈ plain := by
  fun_induction hyphenate sizes plain with
  | case1 => exact absurd h List.not_mem_nil
  | case2 => exact .inr (List.mem_of_mem_take h)
  | case3 size sizes plain hsizes ih =>
    rcases List.mem_append.mp h with hfirst | hrest
    · exact .inr (List.mem_of_mem_take hfirst)
    · rcases List.mem_cons.mp hrest with hmark | hrest
      · exact .inl hmark
      · exact (ih hrest).imp_right List.mem_of_mem_drop

/-! ## 4.  The forms -/

/-- The four forms of an identifier in lower case. -/
def forms (id : EntityId) : List (List Char) :=
  [id.digits, id.hyphenated, '\x7b' :: id.hyphenated ++ ['\x7d'], resourceScheme ++ id.hyphenated]

theorem map_toLower_hyphenated (id : EntityId) :
    id.hyphenated.map Char.toLower = id.hyphenated := by
  rw [hyphenated, map_toLower_hyphenate, digits, Hexadecimal.map_toLower_digits]

@[simp] theorem length_digits (id : EntityId) : id.digits.length = 32 :=
  Hexadecimal.length_digits 32 _

@[simp] theorem length_hyphenated (id : EntityId) : id.hyphenated.length = 36 := by
  simp [hyphenated, groupSizes, hyphenate]

@[simp] theorem length_resourceScheme : resourceScheme.length = 9 := by
  decide

/-- The hyphenated form consists of digits and hyphens. -/
theorem eq_hyphen_or_digit_of_mem_hyphenated {c : Char} {id : EntityId} (h : c ∈ id.hyphenated) :
    c = '-' ∨ ∃ digit < 16, c = Nat.digitChar digit :=
  (eq_hyphen_or_mem_of_mem_hyphenate h).imp_right Hexadecimal.exists_eq_digitChar_of_mem_digits

theorem ofNat_eq_iff {n : Nat} (hn : n < 2 ^ 128) {id : EntityId} :
    ofNat n = id ↔ n = id.toNat := by
  obtain ⟨bits⟩ := id
  rw [ofNat, toNat, EntityId.mk.injEq, ← BitVec.toNat_inj, BitVec.toNat_ofNat, Nat.mod_eq_of_lt hn]

theorem ofDigits?_eq_some_iff {text : List Char} {id : EntityId} :
    ofDigits? text = some id ↔ text.map Char.toLower = id.digits := by
  have hlength : text.map Char.toLower = id.digits → text.length = 32 := fun h => by
    rw [← List.length_map Char.toLower, h, length_digits]
  have hpower : 16 ^ 32 = 2 ^ 128 := by decide
  rw [ofDigits?]
  split
  · rename_i htext
    simp only [Option.map_eq_some_iff, Hexadecimal.valueFrom?_eq_some_iff, htext, hpower]
    constructor
    · rintro ⟨n, ⟨hn, hdigits⟩, hid⟩
      rw [hdigits, (ofNat_eq_iff hn).mp hid, digits]
    · intro hdigits
      have hn : id.toNat < 2 ^ 128 := id.bits.isLt
      exact ⟨id.toNat, ⟨hn, hdigits⟩, (ofNat_eq_iff hn).mpr rfl⟩
  · rename_i htext
    simp only [reduceCtorEq, false_iff]
    exact fun h => htext (hlength h)

theorem ofHyphenated?_eq_some_iff {text : List Char} {id : EntityId} :
    ofHyphenated? text = some id ↔ text.map Char.toLower = id.hyphenated := by
  have hmap : ofHyphenated? text = some id ↔
      unhyphenate? groupSizes (text.map Char.toLower) = some id.digits := by
    rw [unhyphenate?_map_toLower, ofHyphenated?, Option.bind_eq_some_iff, Option.map_eq_some_iff]
    simp only [ofDigits?_eq_some_iff]
  rw [hmap, unhyphenate?_eq_some_iff, length_digits, hyphenated]
  exact and_iff_right rfl

/-- No two identifiers share the hyphenated form. -/
theorem hyphenated_inj {id other : EntityId} : id.hyphenated = other.hyphenated ↔ id = other := by
  refine ⟨fun h => ?_, congrArg hyphenated⟩
  have hread : ∀ id : EntityId, ofHyphenated? id.hyphenated = some id := fun id =>
    ofHyphenated?_eq_some_iff.mpr id.map_toLower_hyphenated
  have hsame := hread id
  rw [h, hread other] at hsame
  exact (Option.some.inj hsame).symm

theorem ofBraced?_eq_some_iff {text : List Char} {id : EntityId} :
    ofBraced? text = some id ↔
      text.map Char.toLower = '\x7b' :: id.hyphenated ++ ['\x7d'] := by
  -- What is between the braces is read as the hyphenated form.
  have hinner : ofBraced? text = some id ↔
      ∃ inner, text = '\x7b' :: inner ++ ['\x7d'] ∧ ofHyphenated? inner = some id := by
    fun_cases ofBraced? text with
    | case1 rest hlast =>
      obtain ⟨inner, rfl⟩ := List.getLast?_eq_some_iff.mp hlast
      simp
    | case2 rest hlast =>
      simp only [reduceCtorEq, false_iff]
      rintro ⟨inner, htext, -⟩
      rw [List.cons_append, List.cons_inj_right] at htext
      exact hlast (htext ▸ List.getLast?_concat)
    | case3 text hopen =>
      simp only [reduceCtorEq, false_iff]
      rintro ⟨inner, rfl, -⟩
      exact hopen _ rfl
  rw [hinner]
  simp only [ofHyphenated?_eq_some_iff]
  constructor
  · rintro ⟨inner, rfl, hhyphenated⟩
    rw [List.map_append, List.map_cons, hhyphenated]
    rfl
  · intro h
    obtain ⟨front, back, rfl, hfront, hback⟩ := List.map_eq_append_iff.mp h
    obtain ⟨opening, inner, rfl, hopening, hhyphenated⟩ := List.map_eq_cons_iff.mp hfront
    obtain ⟨closing, rest, rfl, hclosing, hrest⟩ := List.map_eq_cons_iff.mp hback
    rw [Text.toLower_eq_mark_iff (.inr (.inl rfl))] at hopening
    rw [Text.toLower_eq_mark_iff (.inr (.inr rfl))] at hclosing
    rw [hopening, hclosing, List.map_eq_nil_iff.mp hrest]
    exact ⟨inner, rfl, hhyphenated⟩

theorem ofResourceName?_eq_some_iff {text : List Char} {id : EntityId} :
    ofResourceName? text = some id ↔ text.map Char.toLower = resourceScheme ++ id.hyphenated := by
  have hsplit : text.map Char.toLower = (text.take resourceScheme.length).map Char.toLower ++
      (text.drop resourceScheme.length).map Char.toLower := by
    rw [← List.map_append, List.take_append_drop]
  have hwhole : ofResourceName? text = some id ↔
      (text.take resourceScheme.length).map Char.toLower = resourceScheme ∧
        (text.drop resourceScheme.length).map Char.toLower = id.hyphenated := by
    rw [ofResourceName?, ← ofHyphenated?_eq_some_iff]
    split
    · rename_i hscheme
      exact (and_iff_right hscheme).symm
    · rename_i hscheme
      simp only [hscheme, false_and, reduceCtorEq]
  rw [hwhole, hsplit]
  constructor
  · rintro ⟨hscheme, hhyphenated⟩
    rw [hscheme, hhyphenated]
  · intro h
    have hlength : text.length = resourceScheme.length + 36 := by
      rw [← List.length_map Char.toLower, hsplit, h, List.length_append, length_hyphenated]
    exact List.append_inj h (by rw [List.length_map, List.length_take, hlength]; simp)

/-- Where at most one of two has anything, it does not matter which is asked first. -/
theorem orElse_eq_some_iff {α : Type} {first second : Option α}
    (h : ∀ value, first = some value → ∀ other, second ≠ some other) {value : α} :
    (first.orElse fun _ => second) = some value ↔ first = some value ∨ second = some value := by
  cases first with
  | none => simp
  | some held => simp [h held rfl value]

theorem ofChars?_eq_some_iff {text : List Char} {id : EntityId} :
    ofChars? text = some id ↔ text.map Char.toLower ∈ id.forms := by
  -- The four forms are told apart by their lengths alone.
  have hdigits : ∀ {id}, ofDigits? text = some id → text.length = 32 := fun h => by
    simpa using congrArg List.length (ofDigits?_eq_some_iff.mp h)
  have hhyphenated : ∀ {id}, ofHyphenated? text = some id → text.length = 36 := fun h => by
    simpa using congrArg List.length (ofHyphenated?_eq_some_iff.mp h)
  have hbraced : ∀ {id}, ofBraced? text = some id → text.length = 38 := fun h => by
    simpa using congrArg List.length (ofBraced?_eq_some_iff.mp h)
  have hresource : ∀ {id}, ofResourceName? text = some id → text.length = 45 := fun h => by
    simpa using congrArg List.length (ofResourceName?_eq_some_iff.mp h)
  have hlast : ∀ {id}, ((ofBraced? text).orElse fun _ => ofResourceName? text) = some id ↔
      ofBraced? text = some id ∨ ofResourceName? text = some id :=
    orElse_eq_some_iff fun _ hfirst _ hsecond => by
      have hshort := hbraced hfirst
      have hlong := hresource hsecond
      omega
  have hrest : ∀ {id}, ((ofHyphenated? text).orElse fun _ =>
      (ofBraced? text).orElse fun _ => ofResourceName? text) = some id ↔
        ofHyphenated? text = some id ∨ ofBraced? text = some id ∨
          ofResourceName? text = some id := by
    intro id
    rw [orElse_eq_some_iff, hlast]
    intro _ hfirst _ hsecond
    have hshort := hhyphenated hfirst
    rcases hlast.mp hsecond with h | h
    · have hlong := hbraced h
      omega
    · have hlong := hresource h
      omega
  rw [ofChars?, orElse_eq_some_iff, hrest, ofDigits?_eq_some_iff, ofHyphenated?_eq_some_iff,
    ofBraced?_eq_some_iff, ofResourceName?_eq_some_iff]
  · simp [forms]
  · intro _ hfirst _ hsecond
    have hshort := hdigits hfirst
    rcases hrest.mp hsecond with h | h | h
    · have hlong := hhyphenated h
      omega
    · have hlong := hbraced h
      omega
    · have hlong := hresource h
      omega

/-- **A text is read as an identifier exactly if it is one of its forms**, in any case. -/
theorem ofString?_eq_some_iff {text : String} {id : EntityId} :
    ofString? text = some id ↔ text.toList.map Char.toLower ∈ id.forms :=
  ofChars?_eq_some_iff

end EntityId
end WithdrawalCascade
