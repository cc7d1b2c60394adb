import WithdrawalCascade.Cascade.Dialogue

/-!
# Where a world can come to

A world answers out of a state that changes as it answers.  What it will do from some state on is a
matter of the states that it can come to from there (`World.Reaches`), by whatever calls.  A
dialogue leads from one such state to another (`World.Reaches.run`), and every reply in its
transcript was given in one of them (`World.Reaches.exists_answer`).
-/

namespace WithdrawalCascade

variable {σ α : Type}

/-- The states that a world can come to from `state` on by answering calls. -/
inductive World.Reaches (world : World σ) (state : σ) : σ → Prop where
  | start : World.Reaches world state state
  | answer (call : Call) {reached : σ} :
      World.Reaches world state reached → World.Reaches world state (world.answer call reached).2

namespace World.Reaches

variable {world : World σ} {state reached : σ}

/-- Playing a dialogue, a world comes from where it can come to no further than that. -/
theorem run (dialogue : Dialogue α) (h : world.Reaches state reached) :
    world.Reaches state (dialogue.run world reached).state := by
  induction dialogue generalizing reached with
  | done result => exact h
  | tell record rest ih => exact ih h
  | ask call rest ih => exact ih _ (h.answer call)

/-- **Every reply in a transcript is the world's answer** in a state that it has come to. -/
theorem exists_answer {dialogue : Dialogue α} (h : world.Reaches state reached) {call : Call}
    {reply : call.Reply} (hmem : .exchange call reply ∈ (dialogue.run world reached).transcript) :
    ∃ later, world.Reaches state later ∧ reply = (world.answer call later).1 := by
  induction dialogue generalizing reached with
  | done result => exact absurd hmem List.not_mem_nil
  | tell record rest ih =>
    rcases List.mem_cons.mp hmem with hfirst | hrest
    · cases hfirst
    · exact ih h hrest
  | ask asked rest ih =>
    rcases List.mem_cons.mp hmem with hfirst | hrest
    · cases hfirst
      exact ⟨reached, h, rfl⟩
    · exact ih _ (h.answer asked) hrest

end World.Reaches
end WithdrawalCascade
