import Mathlib.Data.List.Nodup
import WithdrawalCascade.Proofs.Blocking
import WithdrawalCascade.Proofs.Cascade.Course

/-!
# Which descendant a call belongs to

A withdrawal, a look-up and a report name the descendant they are about.  A reading of the clock
and a cancellation name none: they belong to the descendant whose booking was looked up before.
`Transcript.attributed` reads a transcript in this way, with no look at the tree, and
`Transcript.about` and `Transcript.besides` divide its calls into those that belong to one
descendant and the others.

In a cascade the calls that belong to a descendant are those of its attempt, of which there is one
at most (`Course.about_eq`, `Course.besides_eq`, `Course.attempt_eq_of_id_eq`).
-/

namespace WithdrawalCascade

/-- The descendant that a call names. -/
def Call.named? : Call → Option EntityId
  | .withdrawPlacementRequest withdrawal => some withdrawal.id
  | .withdrawPlacementApplication withdrawal => some withdrawal.id
  | .findBooking id => some id
  | .now => none
  | .cancelBooking .. => none
  | .report failure => some failure.entityId

namespace Transcript

/-- Every entry with the descendant it belongs to: the one that its call names, and where it names
none, the one that was named last before it, which at the beginning is `last`. -/
def attributed : Option EntityId → Transcript → List (Option EntityId × Entry)
  | _, [] => []
  | last, entry :: rest =>
    let owner := (entry.call?.bind Call.named?).or last
    (owner, entry) :: attributed owner rest

/-- The calls that belong to the descendant `id`. -/
def about (id : EntityId) (transcript : Transcript) : Transcript :=
  ((attributed none transcript.exchanges).filter fun entry => entry.1 = some id).map Prod.snd

/-- The calls that do not belong to the descendant `id`. -/
def besides (id : EntityId) (transcript : Transcript) : Transcript :=
  ((attributed none transcript.exchanges).filter fun entry => entry.1 ≠ some id).map Prod.snd

/-- Calls that name no other descendant go on belonging to the one named last. -/
theorem attributed_append {id : EntityId} {front : Transcript}
    (hnamed : ∀ entry ∈ front, ∀ other, entry.call?.bind Call.named? = some other → other = id)
    (rest : Transcript) :
    attributed (some id) (front ++ rest) =
      front.map (fun entry => (some id, entry)) ++ attributed (some id) rest := by
  induction front with
  | nil => rfl
  | cons entry front ih =>
    obtain ⟨hentry, hfront⟩ := List.forall_mem_cons.mp hnamed
    have howner : (entry.call?.bind Call.named?).or (some id) = some id := by
      cases hname : entry.call?.bind Call.named? with
      | none => rfl
      | some other => rw [hentry other hname, Option.or_some]; rfl
    rw [List.cons_append, attributed, howner, ih hfront]
    rfl

end Transcript

namespace Cascade

/-- The calls of an attempt begin with one that names the descendant, and name no other. -/
theorem attemptCalls_named (policy : MissingBookingPolicy) (context : Context) (node : Node)
    (encounter : Encounter) :
    attemptCalls policy context (node, encounter) = [] ∨
      ∃ first others, attemptCalls policy context (node, encounter) = first :: others ∧
        first.call?.bind Call.named? = some node.id ∧
        ∀ entry ∈ others, ∀ other, entry.call?.bind Call.named? = some other → other = node.id := by
  have hreports : ∀ entry ∈ (encounter.failures policy context node).map
      fun failure => Entry.exchange (.report failure) (),
      ∀ other, entry.call?.bind Call.named? = some other → other = node.id := by
    refine List.forall_mem_map.mpr fun failure hfailure other hother => ?_
    exact (Option.some.inj hother).symm.trans (entityId_of_mem_failures hfailure)
  cases encounter with
  | idle => exact Or.inl rfl
  | found booking now answer =>
    refine Or.inr ⟨_, _, rfl, rfl, ?_⟩
    -- between the look-up and the report nothing is named
    refine List.forall_mem_cons.mpr ⟨by rintro _ ⟨⟩, List.forall_mem_cons.mpr ⟨by rintro _ ⟨⟩, ?_⟩⟩
    exact hreports
  | request answer => exact Or.inr ⟨_, _, rfl, rfl, hreports⟩
  | furtherRequest answer => exact Or.inr ⟨_, _, rfl, rfl, hreports⟩
  | unsearched fault => exact Or.inr ⟨_, _, rfl, rfl, hreports⟩
  | absent => exact Or.inr ⟨_, _, rfl, rfl, hreports⟩

/-- **The calls of an attempt belong to its descendant**, whatever was called before. -/
theorem attributed_attempts (policy : MissingBookingPolicy) (context : Context)
    (last : Option EntityId) (attempted : List (Node × Encounter)) :
    Transcript.attributed last (attempted.flatMap (attemptCalls policy context)) =
      attempted.flatMap fun attempt =>
        (attemptCalls policy context attempt).map fun entry => (some attempt.1.id, entry) := by
  induction attempted generalizing last with
  | nil => rfl
  | cons attempt rest ih =>
    obtain ⟨node, encounter⟩ := attempt
    rw [List.flatMap_cons, List.flatMap_cons]
    rcases attemptCalls_named policy context node encounter with
      hcalls | ⟨first, others, hcalls, hfirst, hothers⟩
    · rw [hcalls]
      exact ih last
    · rw [hcalls, List.cons_append, Transcript.attributed, hfirst, Option.some_or,
        Transcript.attributed_append hothers, ih]
      rfl

/-- Selecting calls by the descendant they belong to is selecting attempts. -/
theorem filter_attributed_attempts (policy : MissingBookingPolicy) (context : Context)
    (selected : Option EntityId → Bool) (attempted : List (Node × Encounter)) :
    ((Transcript.attributed none (attempted.flatMap (attemptCalls policy context))).filter
        fun entry => selected entry.1).map Prod.snd =
      (attempted.filter fun attempt => selected (some attempt.1.id)).flatMap
        (attemptCalls policy context) := by
  rw [attributed_attempts]
  induction attempted with
  | nil => rfl
  | cons attempt rest ih =>
    -- all calls of an attempt have one owner, so they are selected together
    rw [List.flatMap_cons, List.filter_append, List.map_append, ih, List.filter_map, List.map_map]
    cases hselected : selected (some attempt.1.id) with
    | true => simp [hselected, Function.comp_def]
    | false => simp [hselected, Function.comp_def]

namespace Course

variable {reporting : Reporting} {tree : Tree} {context : Context}
  {policy : MissingBookingPolicy} {steps : List Step} {result : Except Fault Unit}
  {transcript : Transcript}

/-- A descendant is attempted once. -/
theorem attempt_eq_of_id_eq (h : Course reporting tree context policy steps result transcript)
    {attempt other : Node × Encounter} (hattempt : attempt ∈ attempts steps)
    (hother : other ∈ attempts steps) (hid : attempt.1.id = other.1.id) : attempt = other := by
  have hids : ((attempts steps).map fun attempt => attempt.1.id).Nodup := by
    have hfirst := (h.map_fst_attempts_isPrefix.map Node.id).sublist.nodup tree.nodup_eligible_ids
    rwa [List.map_map] at hfirst
  exact List.inj_on_of_nodup_map hids hattempt hother hid

/-- The calls about a descendant are those of its attempt. -/
theorem about_eq (h : Course reporting tree context policy steps result transcript)
    (id : EntityId) :
    transcript.about id = ((attempts steps).filter fun attempt => attempt.1.id = id).flatMap
      (attemptCalls policy context) := by
  rw [Transcript.about, h.exchanges_eq]
  have hselect := filter_attributed_attempts policy context (fun owner => owner = some id)
    (attempts steps)
  simpa only [Option.some.injEq] using hselect

/-- The calls besides those about a descendant are those of the other attempts. -/
theorem besides_eq (h : Course reporting tree context policy steps result transcript)
    (id : EntityId) :
    transcript.besides id = ((attempts steps).filter fun attempt => attempt.1.id ≠ id).flatMap
      (attemptCalls policy context) := by
  rw [Transcript.besides, h.exchanges_eq]
  have hselect := filter_attributed_attempts policy context (fun owner => owner ≠ some id)
    (attempts steps)
  simpa only [ne_eq, Option.some.injEq] using hselect

end Course

end Cascade
end WithdrawalCascade
