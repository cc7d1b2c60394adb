import WithdrawalCascade.Proofs.Policy.Setting

/-!
# What an environment sets

A variable of a process holds bytes, and a setting is a text.  Where the bytes are those of a text
the environment is heard: the text is accepted or refused like any other setting, and a refusal
gives it back.  Where they are not, nobody looks at them, and the cascade runs as if nothing had
been set.

* `Config.heard_in_environment` says for every environment what comes of it.
* `Config.bytes_unheard`: not every value that is set means the policy that comes of it.  One byte
  that is out of place turns "skip" into the policy to stop, without an error.
-/

namespace WithdrawalCascade

/-- Bytes are read as the text that they encode, and no other bytes are read. -/
theorem Text.fromUTF8?_eq_some_iff {bytes : ByteArray} {text : String} :
    String.fromUTF8? bytes = some text ↔ bytes = text.toUTF8 := by
  unfold String.fromUTF8?
  constructor
  · intro h
    split at h
    · rw [← Option.some.inj h]
      rfl
    · cases h
  · rintro rfl
    rw [String.toUTF8_eq_toByteArray, dif_pos text.isValidUTF8]
    rfl

namespace Config

variable {environment : String → Option ByteArray}

/-- What the environment is asked for is the text that the variable is set to, if it is one. -/
theorem fromEnvironment_eq (environment : String → Option ByteArray) :
    fromEnvironment environment =
      ((environment "WITHDRAWAL_ON_MISSING_BOOKING").bind String.fromUTF8?).elim (.ok ⟨.abort⟩)
        fun value => (MissingBookingPolicy.ofSetting value).map Config.mk := by
  rw [fromEnvironment, fromLookup_eq_map]
  rfl

/-- A variable that is set to a text is heard as a setting. -/
theorem fromEnvironment_of_text {value : String}
    (h : environment "WITHDRAWAL_ON_MISSING_BOOKING" = some value.toUTF8) :
    fromEnvironment environment = (MissingBookingPolicy.ofSetting value).map Config.mk := by
  rw [fromEnvironment_eq, h, Option.bind_some, Text.fromUTF8?_eq_some_iff.mpr rfl]
  rfl

/-- A variable that is set to no text, or to nothing at all, goes unheard. -/
theorem fromEnvironment_of_no_text
    (h : ∀ value : String, environment "WITHDRAWAL_ON_MISSING_BOOKING" ≠ some value.toUTF8) :
    fromEnvironment environment = .ok ⟨.abort⟩ := by
  have hnone : (environment "WITHDRAWAL_ON_MISSING_BOOKING").bind String.fromUTF8? = none := by
    rw [Option.eq_none_iff_forall_ne_some]
    intro value hvalue
    obtain ⟨bytes, hbytes, htext⟩ := Option.bind_eq_some_iff.mp hvalue
    exact h value (Text.fromUTF8?_eq_some_iff.mp htext ▸ hbytes)
  rw [fromEnvironment_eq, hnone]
  rfl

/-- A variable is set to one text at most. -/
theorem exists_text_iff {value : String} {p : String → Prop}
    (h : environment "WITHDRAWAL_ON_MISSING_BOOKING" = some value.toUTF8) :
    (∃ other : String, environment "WITHDRAWAL_ON_MISSING_BOOKING" = some other.toUTF8 ∧ p other) ↔
      p value := by
  constructor
  · rintro ⟨other, hother, hp⟩
    have hbytes : value.toUTF8 = other.toUTF8 := Option.some.inj (h.symm.trans hother)
    rwa [String.toByteArray_inj.mp hbytes]
  · exact fun hp => ⟨value, h, hp⟩

/-- An environment gives a policy if and only if its variable is set to a text that means the
policy, or the policy is to stop and the variable is set to no text.  It gives an error if and only
if the variable is set to a text that means no policy, and the error gives the text back.  So a
variable whose bytes are no text counts as set to nothing. -/
theorem heard_in_environment (environment : String → Option ByteArray) :
    (∀ policy, fromEnvironment environment = .ok ⟨policy⟩ ↔
        (∃ value : String, environment "WITHDRAWAL_ON_MISSING_BOOKING" = some value.toUTF8 ∧
          policy.IsMeantBy value) ∨
        (policy = .abort ∧
          ∀ value : String, environment "WITHDRAWAL_ON_MISSING_BOOKING" ≠ some value.toUTF8)) ∧
      ∀ invalid, fromEnvironment environment = .error invalid ↔
        ∃ value : String, environment "WITHDRAWAL_ON_MISSING_BOOKING" = some value.toUTF8 ∧
          (∀ policy : MissingBookingPolicy, ¬ policy.IsMeantBy value) ∧
          invalid = ⟨"WITHDRAWAL_ON_MISSING_BOOKING", value, "abort, skip"⟩ := by
  by_cases htext : ∃ value : String,
      environment "WITHDRAWAL_ON_MISSING_BOOKING" = some value.toUTF8
  · obtain ⟨value, hvalue⟩ := htext
    rw [fromEnvironment_of_text hvalue]
    refine ⟨fun policy => ?_, fun invalid => ?_⟩
    · have hset : ¬ (policy = .abort ∧ ∀ other : String,
          environment "WITHDRAWAL_ON_MISSING_BOOKING" ≠ some other.toUTF8) :=
        fun h => h.2 value hvalue
      rw [or_iff_left hset, exists_text_iff hvalue, ← MissingBookingPolicy.ofSetting_eq_ok_iff]
      cases MissingBookingPolicy.ofSetting value <;> simp [Except.map]
    · rw [exists_text_iff hvalue, ← MissingBookingPolicy.ofSetting_eq_error_iff]
      cases MissingBookingPolicy.ofSetting value <;> simp [Except.map]
  · have hunset := not_exists.mp htext
    rw [fromEnvironment_of_no_text hunset]
    refine ⟨fun policy => ?_, fun invalid => ?_⟩
    · rw [or_iff_right fun ⟨value, hvalue, _⟩ => hunset value hvalue, and_iff_left hunset,
        Except.ok.injEq, Config.mk.injEq, eq_comm]
    · refine ⟨fun h => ?_, fun ⟨value, hvalue, _⟩ => absurd hvalue (hunset value)⟩
      cases h

/-- The word "skip" with a byte behind it that stands in no text. -/
def strayBytes : ByteArray :=
  ⟨#[0x73, 0x6B, 0x69, 0x70, 0xFF]⟩

/-- Not every value that is set is heard: it is not so that a set variable always gives the policy
that its text means, or else an error. -/
theorem bytes_unheard :
    ¬ ∀ (environment : String → Option ByteArray) (bytes : ByteArray),
      environment "WITHDRAWAL_ON_MISSING_BOOKING" = some bytes →
        (∃ (value : String) (policy : MissingBookingPolicy), bytes = value.toUTF8 ∧
          policy.IsMeantBy value ∧ fromEnvironment environment = .ok ⟨policy⟩) ∨
        ∃ invalid, fromEnvironment environment = .error invalid := by
  have hstray : ∀ value : String, strayBytes ≠ value.toUTF8 := by
    intro value hvalue
    have hnone : String.fromUTF8? strayBytes = none := by decide +kernel
    rw [Text.fromUTF8?_eq_some_iff.mpr hvalue] at hnone
    cases hnone
  intro hheard
  rcases hheard (fun _ => some strayBytes) strayBytes rfl with
    ⟨value, policy, hvalue, -⟩ | ⟨invalid, herror⟩
  · exact hstray value hvalue
  · have hunset : ∀ value : String, some strayBytes ≠ some value.toUTF8 :=
      fun value h => hstray value (Option.some.inj h)
    rw [fromEnvironment_of_no_text hunset] at herror
    cases herror

end Config
end WithdrawalCascade
