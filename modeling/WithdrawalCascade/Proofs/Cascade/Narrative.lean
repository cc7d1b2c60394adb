import WithdrawalCascade.Cascade.Command
import WithdrawalCascade.Proofs.Cascade.Report

/-!
# What operators read

Operators see of a record its level, its text and its fields (`Log.Record.line`), and the span of
the command.  This file says which lines a cascade writes: two at the beginning, then for each
descendant that it comes to the lines of one step (`Step.lines`), and one at the end.

The lines of a step are written down here in full, texts and field names included, with no recourse
to `Log.Event`.  So is the reason for which a descendant is left alone: what can be withdrawn is
left alone only where something blocks.

* `lines_step`: a step writes its lines.
* `Course.lines_eq`: a run writes the lines of its steps, between the opening and one last line.
* `Transcript.records_within`: a span goes onto every record.
-/

namespace WithdrawalCascade

namespace Log

/-- What operators read of a record, the span aside. -/
structure Line where
  /-- The name of the level. -/
  level : String
  message : String
  fields : List (String × FieldValue)
  deriving DecidableEq, Repr

/-- The line of a record. -/
def Record.line (record : Record) : Line :=
  ⟨record.event.level.name, record.event.message, record.event.fields⟩

/-- The record in a span. -/
def Record.inSpan (span : Span) (record : Record) : Record :=
  { record with span := some span }

end Log

namespace Transcript

/-- The lines of what was told, in order. -/
def lines (transcript : Transcript) : List Log.Line :=
  transcript.records.map Log.Record.line

theorem mem_records_iff {transcript : Transcript} {record : Log.Record} :
    record ∈ transcript.records ↔ .told record ∈ transcript := by
  rw [records, List.mem_filterMap]
  constructor
  · rintro ⟨entry, hentry, hrecord⟩
    cases entry with
    | exchange call reply => cases hrecord
    | told other =>
      cases hrecord
      exact hentry
  · intro hentry
    exact ⟨_, hentry, rfl⟩

theorem records_append (front back : Transcript) :
    records (front ++ back) = front.records ++ back.records :=
  List.filterMap_append

theorem lines_append (front back : Transcript) :
    lines (front ++ back) = front.lines ++ back.lines := by
  rw [lines, records_append, List.map_append, lines, lines]

end Transcript

/-! ## 1.  Spans -/

theorem Entry.record?_within (span : Log.Span) (entry : Entry) :
    (entry.within span).record? = entry.record?.map (Log.Record.inSpan span) := by
  cases entry <;> rfl

theorem Transcript.records_within (span : Log.Span) (transcript : Transcript) :
    records (transcript.map (Entry.within span)) =
      transcript.records.map (Log.Record.inSpan span) := by
  rw [records, List.filterMap_map, records, List.map_filterMap]
  exact List.filterMap_congr fun entry _ => Entry.record?_within span entry

theorem Transcript.exchanges_within (span : Log.Span) (transcript : Transcript) :
    exchanges (transcript.map (Entry.within span)) = transcript.exchanges := by
  induction transcript with
  | nil => rfl
  | cons entry rest ih =>
    cases entry with
    | told record => exact ih
    | exchange call reply => exact congrArg (Entry.exchange call reply :: ·) ih

/-- A span is no part of a line. -/
theorem Transcript.lines_within (span : Log.Span) (transcript : Transcript) :
    lines (transcript.map (Entry.within span)) = transcript.lines := by
  rw [lines, records_within, List.map_map]
  rfl

namespace Cascade

variable {σ : Type}

/-! ## 2.  The lines of a step -/

/-- The fields that name a descendant. -/
def namingFields (node : Node) : List (String × Log.FieldValue) :=
  [("entity_type", .text node.kind.name), ("entity_id", .text node.id.render)]

/-- The fields that name the entity whose withdrawal started the cascade. -/
def triggerFields (context : Context) : List (String × Log.FieldValue) :=
  [("triggering_entity_type", .text context.triggeringKind.name),
    ("triggering_entity_id", .text context.triggeringId.render)]

/-- What operators read of a step: that a descendant is left alone, and why; or that its withdrawal
begins, and then that it failed, if it did. -/
def Step.lines (policy : MissingBookingPolicy) (context : Context) : Step → List Log.Line
  | skipped node _ =>
    [⟨"DEBUG", "skipping descendant", namingFields node ++
      [("reason", .text (if node.status.withdrawable then "blocked" else "not_withdrawable"))]⟩]
  | attempted node encounter =>
    ⟨"DEBUG", "withdrawing descendant", namingFields node⟩ ::
      (encounter.failure? policy).toList.map fun kind =>
        ⟨"WARN", "failed to withdraw descendant",
          namingFields node ++ triggerFields context ++ [("failure", .text kind.display)]⟩

/-- The two lines before the first step. -/
def openingLines (tree : Tree) (context : Context) : List Log.Line :=
  [⟨"DEBUG", "withdrawable tree", [("tree", .text tree.render)]⟩,
    ⟨"INFO", "cascading withdrawal to descendants", triggerFields context ++
      [("nodes", .count tree.nodeCount),
        ("eligible", .count (tree.root.eligibleDescendants tree.blocking).length)]⟩]

/-- The line after the last step of a cascade that came to its end. -/
def completeLine (tally : Log.Tally) : Log.Line :=
  ⟨"INFO", "cascade complete",
    [("attempted", .count tally.attempted), ("completed", .count tally.completed),
      ("failed", .count tally.failed), ("skipped", .count tally.skipped)]⟩

/-- The line after the last step of a cascade that stopped at the booking `id`. -/
def missingLine (id : EntityId) : Log.Line :=
  ⟨"ERROR", "withdrawable tree references a booking that does not exist",
    [("booking_id", .text id.render)]⟩

/-- What is left alone although it can be withdrawn is blocked. -/
theorem name_of_ne_eligible {node : Node} {annotations : Annotations}
    (h : node.eligibility annotations ≠ .eligible) :
    (node.eligibility annotations).name =
      if node.status.withdrawable then "blocked" else "not_withdrawable" := by
  rw [Node.eligibility] at h ⊢
  generalize node.status.withdrawable = withdrawable at h ⊢
  generalize annotations.isSubtreeBlocked node.id = blocked at h ⊢
  cases withdrawable with
  | false => rfl
  | true =>
    cases blocked with
    | true => rfl
    | false => exact absurd rfl h

theorem lines_encounter (context : Context) (id : EntityId) (encounter : Encounter) :
    Transcript.lines (encounter.exchanges context id) = [] := by
  cases encounter <;> rfl

/-- **A step writes its lines**, unless it ends the cascade. -/
theorem lines_step {policy : MissingBookingPolicy} {step : Step} {annotations : Annotations}
    (hassessed : step.assessed.2 = step.assessed.1.eligibility annotations) (hfits : step.Fits)
    (hquiet : step.stops policy = false) (context : Context) :
    Transcript.lines (step.transcript .logged policy context) = step.lines policy context := by
  cases step with
  | skipped node reason =>
    obtain rfl : reason = node.eligibility annotations := hassessed
    rw [Step.lines, ← name_of_ne_eligible hfits]
    rfl
  | attempted node encounter =>
    have hstops : encounter.stops policy = false := hquiet
    have halarms : encounter.alarms policy node.id = [] := by
      rw [Encounter.alarms, hstops, if_neg Bool.false_ne_true]
    show _ :: Transcript.lines (_ ++ (_ ++ _)) = _
    rw [Transcript.lines_append, lines_encounter, halarms, List.nil_append, List.nil_append,
      Encounter.failures, Step.lines]
    -- a failure is one line, and there is at most one
    cases encounter.failure? policy <;> rfl

/-- **Steps write their lines in turn.** -/
theorem lines_steps {policy : MissingBookingPolicy} {steps : List Step} {annotations : Annotations}
    (hassessed : ∀ step ∈ steps, step.assessed.2 = step.assessed.1.eligibility annotations)
    (hfits : ∀ step ∈ steps, step.Fits) (hquiet : ∀ step ∈ steps, step.stops policy = false)
    (context : Context) :
    Transcript.lines (steps.flatMap (Step.transcript .logged policy context)) =
      steps.flatMap (Step.lines policy context) := by
  induction steps with
  | nil => rfl
  | cons step rest ih =>
    obtain ⟨hassessedStep, hassessedRest⟩ := List.forall_mem_cons.mp hassessed
    obtain ⟨hfitsStep, hfitsRest⟩ := List.forall_mem_cons.mp hfits
    obtain ⟨hquietStep, hquietRest⟩ := List.forall_mem_cons.mp hquiet
    rw [List.flatMap_cons, Transcript.lines_append, lines_step hassessedStep hfitsStep hquietStep,
      ih hassessedRest hfitsRest hquietRest, List.flatMap_cons]

/-! ## 3.  The lines of a run -/

/-- The opening of a cascade is its first two lines. -/
theorem lines_opening (tree : Tree) (context : Context) :
    (opening tree context).lines = openingLines tree context := by
  rw [openingLines, Node.eligibleDescendants, List.length_map, ← List.countP_eq_length_filter]
  rfl

/-- The assessment says of each descendant what its eligibility is. -/
theorem assessed_eq_of_isPrefix {root : Node} {annotations : Annotations} {steps : List Step}
    (h : steps.map Step.assessed <+: root.assessDescendants annotations) :
    ∀ step ∈ steps, step.assessed.2 = step.assessed.1.eligibility annotations := by
  intro step hstep
  have hmem : step.assessed ∈ root.assessDescendants annotations :=
    h.subset (List.mem_map_of_mem hstep)
  obtain ⟨node, -, hnode⟩ := List.mem_map.mp hmem
  rw [← hnode]

namespace Course

variable {reporting : Reporting} {tree : Tree} {context : Context}
  {policy : MissingBookingPolicy} {steps : List Step} {result : Except Fault Unit}
  {transcript : Transcript}

/-- The steps are about the first of the assessed descendants, in order, and fit them. -/
theorem assessed_isPrefix (h : Course reporting tree context policy steps result transcript) :
    steps.map Step.assessed <+: tree.root.assessDescendants tree.blocking ∧
      ∀ step ∈ steps, step.Fits := by
  cases h with
  | complete hassessed hfits hquiet htally =>
    rw [hassessed]
    exact ⟨List.prefix_refl _, hfits⟩
  | @stopped earlier node rest hassessed hfits hquiet hkind hpolicy =>
    refine ⟨⟨rest, ?_⟩, List.forall_mem_append.mpr ⟨hfits, ?_⟩⟩
    · rw [hassessed, List.map_append, List.append_assoc]
      rfl
    · exact List.forall_mem_singleton.mpr hkind.symm

/-- **A run writes the lines of its steps**, and after them one that says how it ended. -/
theorem lines_eq (h : Course .logged tree context policy steps result transcript) :
    (result = .ok () ∧ steps.map Step.assessed = tree.root.assessDescendants tree.blocking ∧
        ∃ tally, transcript.lines = openingLines tree context ++
          (steps.flatMap (Step.lines policy context) ++ [completeLine tally])) ∨
      ∃ earlier node, steps = earlier ++ [.attempted node .absent] ∧
        result = .error (.entityNotFound "booking" node.id) ∧
        transcript.lines = openingLines tree context ++
          (steps.flatMap (Step.lines policy context) ++ [missingLine node.id]) := by
  have hassessment := assessed_eq_of_isPrefix h.assessed_isPrefix.1
  cases h with
  | @complete taken tally hassessed hfits hquiet htally =>
    refine Or.inl ⟨rfl, hassessed.symm, tally, ?_⟩
    rw [Transcript.lines_append, Transcript.lines_append, lines_opening,
      lines_steps hassessment hfits hquiet]
    rfl
  | @stopped earlier node rest hassessed hfits hquiet hkind hpolicy =>
    refine Or.inr ⟨earlier, node, rfl, rfl, ?_⟩
    have hearlier := (List.forall_mem_append.mp hassessment).1
    rw [Transcript.lines_append, Transcript.lines_append, lines_opening,
      lines_steps hearlier hfits hquiet, List.flatMap_append, List.append_assoc, hpolicy]
    rfl

/-- A cascade by itself tells nothing in a span. -/
theorem span_eq_none (h : Course reporting tree context policy steps result transcript)
    {record : Log.Record} (htold : .told record ∈ transcript) : record.span = none := by
  have hsteps : ∀ taken : List Step,
      .told record ∈ taken.flatMap (Step.transcript reporting policy context) →
        record.span = none := by
    intro taken hmem
    obtain ⟨step, -, hstep⟩ := List.mem_flatMap.mp hmem
    exact (told_mem_step hstep).2
  have hopening : .told record ∈ opening tree context → record.span = none := by
    intro hmem
    rcases List.mem_pair.mp hmem with hfirst | hsecond
    · cases hfirst
      rfl
    · cases hsecond
      rfl
  cases h with
  | complete =>
    rcases List.mem_append.mp htold with htold | htold
    · exact hopening htold
    rcases List.mem_append.mp htold with htold | htold
    · exact hsteps _ htold
    · cases List.mem_singleton.mp htold
      rfl
  | stopped =>
    rcases List.mem_append.mp htold with htold | htold
    · exact hopening htold
    rcases List.mem_append.mp htold with htold | htold
    · exact hsteps _ htold
    · -- of the last step the start and the alarm are told
      simp only [List.mem_cons, List.not_mem_nil, or_false, reduceCtorEq, false_or] at htold
      rcases htold with hbegins | halarm
      · cases hbegins
        rfl
      · cases halarm
        rfl

end Course

/-! ## 4.  Commands -/

/-- What operators read of a command: the tree and the numbers; then for each descendant in
pre-order, up to the end or up to the booking at which the cascade stops, one line that says that it
is left alone or that its withdrawal begins, and in the latter case a warning if it failed; then how
the cascade ended.  All of it is told in the span of the command.  Without the command the same
calls are made with the same result, and the same is told in no span. -/
theorem log_of_command (command : CascadeCommand) (config : Config) (world : World σ) (state : σ) :
    let run := (command.handle .logged config).run world state
    let plain := (withdrawDescendants .logged command.tree command.context config).run world state
    let policy := config.onMissingBooking
    let assessed := (Forest.preorder command.tree.root.children).map fun node =>
      (node, node.eligibility command.tree.blocking)
    (∃ steps : List Step,
      steps.map Step.assessed <+: assessed ∧ (∀ step ∈ steps, step.Fits) ∧
      run.transcript.exchanges = (attempts steps).flatMap (attemptCalls policy command.context) ∧
      ((run.result = .ok () ∧ steps.map Step.assessed = assessed ∧
          ∃ tally, run.transcript.lines = openingLines command.tree command.context ++
            (steps.flatMap (Step.lines policy command.context) ++ [completeLine tally])) ∨
        ∃ earlier node, steps = earlier ++ [.attempted node .absent] ∧
          run.result = .error (.entityNotFound "booking" node.id) ∧
          run.transcript.lines = openingLines command.tree command.context ++
            (steps.flatMap (Step.lines policy command.context) ++ [missingLine node.id]))) ∧
      (∀ record ∈ run.transcript.records, record.span = some ⟨"handle_cascade_withdrawal",
        "withdrawal.cascade", command.correlationId, command.context.triggeringId⟩) ∧
      plain.result = run.result ∧ plain.transcript.exchanges = run.transcript.exchanges ∧
      plain.transcript.records =
        run.transcript.records.map fun record => { record with span := none } := by
  intro run plain policy assessed
  have hcourse := course_run .logged command.tree command.context config world state
  have hrun : run = { plain with transcript := plain.transcript.map (Entry.within command.span) } :=
    Dialogue.run_within ..
  have hresult : run.result = plain.result := by rw [hrun]
  have hexchanges : run.transcript.exchanges = plain.transcript.exchanges := by
    rw [hrun, Transcript.exchanges_within]
  have hlines : run.transcript.lines = plain.transcript.lines := by
    rw [hrun, Transcript.lines_within]
  have hrecords : run.transcript.records =
      plain.transcript.records.map (Log.Record.inSpan command.span) := by
    rw [hrun, Transcript.records_within]
  have hassessed : command.tree.root.assessDescendants command.tree.blocking = assessed := by
    rw [Node.assessDescendants, Node.descendants_eq_preorder]
  refine ⟨⟨steps .logged command.tree command.context config world state, ?_, ?_, ?_, ?_⟩, ?_,
    hresult.symm, hexchanges.symm, ?_⟩
  · rw [← hassessed]
    exact hcourse.assessed_isPrefix.1
  · exact hcourse.assessed_isPrefix.2
  · rw [hexchanges]
    exact hcourse.exchanges_eq
  · rw [hresult, hlines, ← hassessed]
    exact hcourse.lines_eq
  · intro record hrecord
    rw [hrecords] at hrecord
    obtain ⟨told, -, rfl⟩ := List.mem_map.mp hrecord
    rfl
  · rw [hrecords, List.map_map]
    refine ((List.map_congr_left fun record hrecord => ?_).trans (List.map_id _)).symm
    have hspan := hcourse.span_eq_none (Transcript.mem_records_iff.mp hrecord)
    cases record
    cases hspan
    rfl

end Cascade
end WithdrawalCascade
