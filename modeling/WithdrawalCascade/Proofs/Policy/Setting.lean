import Mathlib.Data.List.Forall2
import WithdrawalCascade.Policy
import WithdrawalCascade.Proofs.EntityId
import WithdrawalCascade.Proofs.Text.Trimming

/-!
# What a setting means

A setting is trimmed and put in lower case before it is compared with the words of the two policies.
Both steps forget something, so many settings mean one policy.  Which ones these are is said here
without either step: a setting means a policy if it consists of blanks, of the word with each letter
in either case, and of blanks again (`MissingBookingPolicy.IsMeantBy`).  Nothing else is taken for a
letter or passed over, neither the Kelvin sign, which other foldings turn into a `k`, nor a space
of no width, nor a blank inside the word.

* `Config.meaning_of_setting` says this, with what becomes of any other setting, and with what is
  asked of a look-up and made of its answer.
-/

namespace WithdrawalCascade

/-! ## 1.  Letters -/

namespace Text

theorem toNat_lt_of_isLower {letter : Char} (h : letter.isLower = true) : letter.toNat < 128 := by
  have hle : letter.val ≤ 'z'.val := of_decide_eq_true (Bool.and_eq_true_iff.mp h).2
  exact Nat.lt_of_le_of_lt (UInt32.le_iff_toNat_le.mp hle) (by decide)

/-- A letter in lower case is what exactly two characters become in lower case: the letter itself
and its capital. -/
theorem toLower_eq_letter_iff {c letter : Char} (hletter : letter.isLower = true) :
    c.toLower = letter ↔ c = letter ∨ c = letter.toUpper := by
  have hsmall := toNat_lt_of_isLower hletter
  constructor
  · rintro rfl
    have hcase : ∀ c : Char, c.toNat < 128 → c = c.toLower ∨ c = c.toLower.toUpper :=
      forall_ascii (by decide +kernel)
    exact hcase c (toNat_lt_of_toLower hsmall)
  · have hcapital : ∀ letter : Char, letter.toNat < 128 → letter.isLower = true →
        letter.toLower = letter ∧ letter.toUpper.toLower = letter :=
      forall_ascii (by decide +kernel)
    rintro (rfl | rfl)
    · exact (hcapital _ hsmall hletter).1
    · exact (hcapital _ hsmall hletter).2

/-- No letter is blank, in either case. -/
theorem isBlank_letter {c letter : Char} (hletter : letter.isLower = true)
    (h : c = letter ∨ c = letter.toUpper) : isBlank c = false := by
  have hcase : ∀ letter : Char, letter.toNat < 128 → letter.isLower = true →
      isBlank letter = false ∧ isBlank letter.toUpper = false :=
    forall_ascii (by decide +kernel)
  obtain ⟨hlower, hupper⟩ := hcase letter (toNat_lt_of_isLower hletter) hletter
  rcases h with rfl | rfl
  · exact hlower
  · exact hupper

/-- The characters are the letters of `word`, which is in lower case, each in either case. -/
def Matches (word letters : List Char) : Prop :=
  List.Forall₂ (fun letter c => c = letter ∨ c = letter.toUpper) word letters

theorem map_toLower_eq_iff {word letters : List Char}
    (hword : ∀ letter ∈ word, letter.isLower = true) :
    letters.map Char.toLower = word ↔ Matches word letters := by
  induction word generalizing letters with
  | nil => simp [Matches]
  | cons letter word ih =>
    obtain ⟨hletter, hword⟩ := List.forall_mem_cons.mp hword
    cases letters with
    | nil => simp [Matches]
    | cons c letters =>
      rw [List.map_cons, List.cons.injEq, toLower_eq_letter_iff hletter, ih hword]
      unfold Matches
      rw [List.forall₂_cons]

/-- A word has no blanks at its ends, nor anywhere else. -/
theorem Matches.isBare {word letters : List Char} (h : Matches word letters)
    (hword : ∀ letter ∈ word, letter.isLower = true) : IsBare letters := by
  have hletters : ∀ c ∈ letters, isBlank c = false := by
    induction h with
    | nil => exact fun _ hc => absurd hc List.not_mem_nil
    | cons hfirst _ ih =>
      obtain ⟨hletter, hword⟩ := List.forall_mem_cons.mp hword
      exact List.forall_mem_cons.mpr ⟨isBlank_letter hletter hfirst, ih hword⟩
  exact ⟨fun c hc => hletters c (List.mem_of_mem_head? hc),
    fun c hc => hletters c (List.mem_of_mem_getLast? hc)⟩

end Text

/-! ## 2.  Settings -/

namespace MissingBookingPolicy

/-- A setting means a policy if it is the word of the policy, each letter in either case, with any
number of blanks before and behind. -/
def IsMeantBy (policy : MissingBookingPolicy) (setting : String) : Prop :=
  ∃ before letters after, setting.toList = before ++ letters ++ after ∧
    (∀ c ∈ before, Text.isBlank c = true) ∧ (∀ c ∈ after, Text.isBlank c = true) ∧
    Text.Matches policy.word.toList letters

variable {policy : MissingBookingPolicy} {value : String}

theorem isLower_of_mem_word : ∀ letter ∈ policy.word.toList, letter.isLower = true := by
  have hall : policy.word.toList.all Char.isLower = true := by
    cases policy <;> rfl
  exact List.all_eq_true.mp hall

/-- The comparison that is made: the trimmed setting in lower case against the word. -/
theorem ofSetting_eq_ok_iff_word :
    ofSetting value = .ok policy ↔
      (Text.trim value.toList).map Char.toLower = policy.word.toList := by
  have hwords : abort.word.toList ≠ skip.word.toList := by decide
  unfold ofSetting
  dsimp only
  split
  · rename_i habort
    cases policy <;> simp [habort, hwords]
  split
  · rename_i habort hskip
    cases policy <;> simp [hskip, hwords.symm]
  · rename_i habort hskip
    cases policy <;> simp [habort, hskip]

/-- **A setting is taken for a policy if and only if it means the policy.** -/
theorem ofSetting_eq_ok_iff : ofSetting value = .ok policy ↔ policy.IsMeantBy value := by
  rw [ofSetting_eq_ok_iff_word, Text.map_toLower_eq_iff isLower_of_mem_word]
  constructor
  · intro hmatches
    obtain ⟨-, before, after, hsplit, hbefore, hafter⟩ := Text.trim_eq_iff.mp rfl
    exact ⟨before, _, after, hsplit, hbefore, hafter, hmatches⟩
  · rintro ⟨before, letters, after, hsplit, hbefore, hafter, hmatches⟩
    have hbare := hmatches.isBare isLower_of_mem_word
    rwa [Text.trim_eq_iff.mpr ⟨hbare, before, after, hsplit, hbefore, hafter⟩]

/-- A setting that is refused is kept as it was. -/
theorem eq_of_ofSetting_eq_error {invalid : InvalidSetting} (h : ofSetting value = .error invalid) :
    invalid = ⟨"WITHDRAWAL_ON_MISSING_BOOKING", value, "abort, skip"⟩ := by
  unfold ofSetting at h
  dsimp only at h
  split at h
  · cases h
  split at h
  · cases h
  · exact (Except.error.inj h).symm

/-- **A setting that means no policy is refused**, and no other is. -/
theorem ofSetting_eq_error_iff {invalid : InvalidSetting} :
    ofSetting value = .error invalid ↔
      (∀ policy : MissingBookingPolicy, ¬ policy.IsMeantBy value) ∧
        invalid = ⟨"WITHDRAWAL_ON_MISSING_BOOKING", value, "abort, skip"⟩ := by
  constructor
  · intro herror
    refine ⟨fun policy hmeant => ?_, eq_of_ofSetting_eq_error herror⟩
    rw [ofSetting_eq_ok_iff.mpr hmeant] at herror
    cases herror
  · rintro ⟨hnone, rfl⟩
    cases hresult : ofSetting value with
    | ok policy => exact absurd (ofSetting_eq_ok_iff.mp hresult) (hnone policy)
    | error invalid => rw [eq_of_ofSetting_eq_error hresult]

end MissingBookingPolicy

/-! ## 3.  Look-ups -/

namespace Config

/-- A look-up that answers out of a state of its own, and keeps the names that it is asked for, the
earliest first. -/
def recorded {σ : Type} (answer : String → σ → Option String × σ) (name : String) :
    StateM (σ × List String) (Option String) := fun (state, asked) =>
  let (value, later) := answer name state
  (value, later, asked ++ [name])

/-- **A look-up is asked one thing**, and what is done with the answer asks nothing further. -/
theorem fromLookup_eq_map {m : Type → Type} [Monad m] [LawfulMonad m]
    (lookup : String → m (Option String)) :
    fromLookup lookup =
      (fun answer => answer.elim (.ok ⟨.abort⟩) fun value =>
        (MissingBookingPolicy.ofSetting value).map Config.mk) <$>
          lookup "WITHDRAWAL_ON_MISSING_BOOKING" := by
  rw [fromLookup, map_eq_pure_bind]
  refine bind_congr fun answer => ?_
  cases answer <;> rfl

/-- A setting is accepted as a policy if and only if it is the word of the policy, each letter in
either case, with any number of blanks before and behind.  Any other setting is refused and given
back as it was.  Whoever is asked for settings, in whatever state, is asked once and for the one
name; an answer of nothing gives the policy to stop, and a value gives what the value is accepted
or refused as. -/
theorem meaning_of_setting :
    (∀ (value : String) (policy : MissingBookingPolicy),
        MissingBookingPolicy.ofSetting value = .ok policy ↔ policy.IsMeantBy value) ∧
      (∀ (value : String) (invalid : InvalidSetting),
        MissingBookingPolicy.ofSetting value = .error invalid ↔
          (∀ policy : MissingBookingPolicy, ¬ policy.IsMeantBy value) ∧
            invalid = ⟨"WITHDRAWAL_ON_MISSING_BOOKING", value, "abort, skip"⟩) ∧
      ∀ (σ : Type) (answer : String → σ → Option String × σ) (state : σ),
        (fromLookup (recorded answer)).run (state, []) =
          ((answer "WITHDRAWAL_ON_MISSING_BOOKING" state).1.elim (.ok ⟨.abort⟩) fun value =>
              (MissingBookingPolicy.ofSetting value).map Config.mk,
            (answer "WITHDRAWAL_ON_MISSING_BOOKING" state).2,
            ["WITHDRAWAL_ON_MISSING_BOOKING"]) := by
  refine ⟨fun _ _ => MissingBookingPolicy.ofSetting_eq_ok_iff,
    fun _ _ => MissingBookingPolicy.ofSetting_eq_error_iff, fun σ answer state => ?_⟩
  rw [fromLookup_eq_map]
  rfl

/-- Neither a blank inside the word nor a space of no width in front of it is passed over. -/
example : MissingBookingPolicy.ofSetting "sk ip" =
      .error ⟨"WITHDRAWAL_ON_MISSING_BOOKING", "sk ip", "abort, skip"⟩ ∧
    MissingBookingPolicy.ofSetting "\u200bskip" =
      .error ⟨"WITHDRAWAL_ON_MISSING_BOOKING", "\u200bskip", "abort, skip"⟩ := ⟨rfl, rfl⟩

end Config
end WithdrawalCascade
