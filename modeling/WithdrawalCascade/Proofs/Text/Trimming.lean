import Mathlib.Data.List.DropRight
import WithdrawalCascade.Text.Blank

/-!
# What trimming leaves

Trimming drops blanks from the front and then, on the reversed text, from the back.  What is left
can be said without either pass: it is the one part of the text with nothing but blanks before and
behind it that neither begins nor ends with a blank (`Text.trim_eq_iff`).  Blanks inside it stay.
-/

namespace WithdrawalCascade
namespace Text

/-- Neither the first character is blank nor the last. -/
structure IsBare (core : List Char) : Prop where
  first : ∀ c ∈ core.head?, isBlank c = false
  last : ∀ c ∈ core.getLast?, isBlank c = false

variable {text before core after : List Char}

/-- From the front, blanks are dropped up to the first character that is none. -/
theorem dropWhile_isBlank_append (hbefore : ∀ c ∈ before, isBlank c = true)
    (hfirst : ∀ c ∈ core.head?, isBlank c = false) :
    (before ++ core).dropWhile isBlank = core := by
  rw [List.dropWhile_append_of_pos hbefore]
  cases core with
  | nil => rfl
  | cons c rest => exact List.dropWhile_cons_of_neg (by simp [hfirst c rfl])

/-- Blanks around a text are dropped, and nothing of the text. -/
theorem trim_append (hcore : IsBare core) (hbefore : ∀ c ∈ before, isBlank c = true)
    (hafter : ∀ c ∈ after, isBlank c = true) : trim (before ++ core ++ after) = core := by
  have hback : ∀ c ∈ after.reverse, isBlank c = true := by
    simpa using hafter
  have hlast : ∀ c ∈ core.reverse.head?, isBlank c = false := by
    rw [List.head?_reverse]
    exact hcore.last
  rw [trim, List.append_assoc]
  by_cases hempty : core = []
  · -- With nothing in between, the first pass takes the blanks behind as well.
    subst hempty
    have hnothing : (before ++ after).dropWhile isBlank = [] :=
      List.dropWhile_eq_nil_iff.mpr (List.forall_mem_append.mpr ⟨hbefore, hafter⟩)
    rw [List.nil_append, hnothing]
    rfl
  · have hfirst : ∀ c ∈ (core ++ after).head?, isBlank c = false := by
      rw [List.head?_append_of_ne_nil _ hempty]
      exact hcore.first
    rw [dropWhile_isBlank_append hbefore hfirst, List.reverse_append,
      dropWhile_isBlank_append hback hlast, List.reverse_reverse]

/-- Trimming takes blanks away and nothing else. -/
theorem exists_eq_append_trim (text : List Char) :
    ∃ before after, text = before ++ trim text ++ after ∧ (∀ c ∈ before, isBlank c = true) ∧
      ∀ c ∈ after, isBlank c = true := by
  refine ⟨text.takeWhile isBlank, (text.dropWhile isBlank).rtakeWhile isBlank, ?_,
    fun _ => List.mem_takeWhile_imp, fun _ => List.mem_rtakeWhile_imp⟩
  have hback : trim text ++ (text.dropWhile isBlank).rtakeWhile isBlank = text.dropWhile isBlank :=
    List.rdropWhile_append_rtakeWhile
  rw [List.append_assoc, hback, List.takeWhile_append_dropWhile]

/-- What is left has no blank at its ends. -/
theorem isBare_trim (text : List Char) : IsBare (trim text) where
  first := by
    intro c hc
    obtain ⟨rest, hrest⟩ : trim text <+: text.dropWhile isBlank := List.rdropWhile_prefix _ _
    have hhead : (text.dropWhile isBlank).head? = some c := by
      rw [← hrest, List.head?_append, Option.mem_def.mp hc]
      rfl
    have hdropped := List.head?_dropWhile_not isBlank text
    rwa [hhead] at hdropped
  last := by
    intro c hc
    obtain ⟨hne, rfl⟩ := List.mem_getLast?_eq_getLast hc
    rw [← Bool.not_eq_true]
    exact List.rdropWhile_last_not isBlank (text.dropWhile isBlank) hne

/-- **What trimming leaves** is what stands between blanks and has none at its ends. -/
theorem trim_eq_iff :
    trim text = core ↔ IsBare core ∧ ∃ before after, text = before ++ core ++ after ∧
      (∀ c ∈ before, isBlank c = true) ∧ ∀ c ∈ after, isBlank c = true := by
  constructor
  · rintro rfl
    exact ⟨isBare_trim text, exists_eq_append_trim text⟩
  · rintro ⟨hcore, before, after, rfl, hbefore, hafter⟩
    exact trim_append hcore hbefore hafter

end Text
end WithdrawalCascade
