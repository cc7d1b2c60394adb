import WithdrawalCascade.Proofs.Wire.RoundTrip
import WithdrawalCascade.Wire.Failure

/-!
# Failures that are filed

The record of a failure is written and never read back, so that it must speak for itself.  What
people are shown of it does not: a text that was rejected and a text that came from a collaborator
out of reach are shown alike, and either may say "NotFound".  On file the kinds differ in shape.
Those without a text are names and those with one are objects, each under a key of its own, and no
text can get out of its quotes.

* `Failure.compact_toJson_inj`: records with one compact text are one record.
* `Failure.unambiguous_on_file`: that, and that the four kinds of failure of one entity have four
  texts.
-/

namespace WithdrawalCascade

/-- What can be read back from a form is told by it. -/
theorem Reader.Undoes.form_injective {α : Type} {reader : Reader α} {form : α → Json}
    (h : Undoes reader form) : Function.Injective form := by
  intro value other heq
  have hvalue := (h value).1
  rw [heq, (h other).1] at hvalue
  exact (Except.ok.inj hvalue).symm

theorem EntityKind.toJson_injective : Function.Injective toJson :=
  (reads.undoes spelledBy_toJson isPlain_toJson).form_injective

theorem EntityId.toJson_injective : Function.Injective toJson :=
  (reads.undoes spelledBy_toJson isPlain_toJson).form_injective

namespace FailureKind

/-- A kind with a text is told from the others by its shape and its key, and from itself by the
text. -/
theorem toJson_injective : Function.Injective toJson := by
  intro kind other heq
  cases kind <;> cases other <;> simp_all [toJson]

theorem isPlain_toJson (kind : FailureKind) : kind.toJson.IsPlain := by
  cases kind with
  | unauthorised => exact Json.isPlain_string _
  | notFound => exact Json.isPlain_string _
  | validation text => exact Json.isPlain_object (by simp) (by simp [Json.isPlain_string])
  | infrastructure text => exact Json.isPlain_object (by simp) (by simp [Json.isPlain_string])

end FailureKind

namespace Failure

theorem toJson_injective : Function.Injective toJson := by
  intro failure other heq
  simp only [toJson, Json.object.injEq, List.cons.injEq, Prod.mk.injEq, true_and, and_true] at heq
  obtain ⟨hkind, hid, htriggeringKind, htriggeringId, hfailure⟩ := heq
  rw [Failure.mk.injEq]
  exact ⟨EntityKind.toJson_injective hkind, EntityId.toJson_injective hid,
    EntityKind.toJson_injective htriggeringKind, EntityId.toJson_injective htriggeringId,
    FailureKind.toJson_injective hfailure⟩

theorem isPlain_toJson (failure : Failure) : failure.toJson.IsPlain := by
  refine Json.isPlain_object (by simp) ?_
  simp [EntityKind.isPlain_toJson, EntityId.isPlain_toJson, FailureKind.isPlain_toJson]

/-- **Records with one compact text are one record.** -/
theorem compact_toJson_inj {failure other : Failure} :
    failure.toJson.compact = other.toJson.compact ↔ failure = other := by
  constructor
  · intro heq
    exact toJson_injective (Json.eq_of_compact_eq failure.isPlain_toJson.hasNoNumber
      other.isPlain_toJson.hasNoNumber heq)
  · rintro rfl
    rfl

/-- Two records of failures have the same compact text only if they are the same record.  So the
four kinds of failure of one entity in one cascade have four texts, whatever is said in the two of
them that have something to say. -/
theorem unambiguous_on_file :
    (∀ failure other : Failure,
        failure.toJson.compact = other.toJson.compact ↔ failure = other) ∧
      ∀ (failure : Failure) (rejection breakdown : String),
        ([FailureKind.unauthorised, .notFound, .validation rejection,
          .infrastructure breakdown].map fun kind =>
            ({ failure with kind := kind } : Failure).toJson.compact).Nodup := by
  refine ⟨fun _ _ => compact_toJson_inj, fun failure rejection breakdown => ?_⟩
  have hinjective : Function.Injective fun kind =>
      ({ failure with kind := kind } : Failure).toJson.compact := by
    intro kind other heq
    exact congrArg Failure.kind (compact_toJson_inj.mp heq)
  rw [List.nodup_map_iff hinjective]
  simp

/-- What people are shown does not tell the kinds apart. -/
example : (FailureKind.validation "NotFound").display = FailureKind.notFound.display ∧
    (FailureKind.infrastructure "NotFound").display = FailureKind.notFound.display := by decide

end Failure
end WithdrawalCascade
