import Mathlib.Tactic.MkIffOfInductiveProp
import WithdrawalCascade.Proofs.Tree.Lines

/-!
# What can be read off a rendered tree

The text of a tree shows its shape by nothing but indentation.  Still, nothing that is shown is
lost: two trees have the same text exactly if they look alike (`Node.LooksAlike`), which is to say
that they have the same shape and show the same at every node.

The text is taken apart three times, each time into a part all of whose entries satisfy a condition
and a rest that begins with one that does not (`append_inj_of_head?`): a text into lines, at the
line feeds; a line into fields, at the first letter and at the space behind the kind; and the lines
of some nodes at one depth into those of the first, which but for its own lie deeper, and those of
the others.
-/

namespace WithdrawalCascade

/-! ## 1.  Taking lists apart -/

/-- Lists with the same whole, whose first parts satisfy a condition that their rests do not begin
with, have the same parts. -/
theorem append_inj_of_head? {α : Type} {p : α → Prop} {first rest other others : List α}
    (hfirst : ∀ item ∈ first, p item) (hrest : ∀ item ∈ rest.head?, ¬ p item)
    (hother : ∀ item ∈ other, p item) (hothers : ∀ item ∈ others.head?, ¬ p item)
    (h : first ++ rest = other ++ others) : first = other ∧ rest = others := by
  rcases List.append_eq_append_iff.mp h with ⟨more, rfl, rfl⟩ | ⟨more, rfl, rfl⟩
  · cases more with
    | nil => exact ⟨(List.append_nil first).symm, rfl⟩
    | cons item more => exact absurd (hother item (by simp)) (hrest item rfl)
  · cases more with
    | nil => exact ⟨List.append_nil other, rfl⟩
    | cons item more => exact absurd (hfirst item (by simp)) (hothers item rfl)

/-- **A text has one division into lines.** -/
theorem flatMap_terminated_inj {mark : Char} {lines others : List (List Char)}
    (hlines : ∀ line ∈ lines, mark ∉ line) (hothers : ∀ line ∈ others, mark ∉ line)
    (h : lines.flatMap (· ++ [mark]) = others.flatMap (· ++ [mark])) : lines = others := by
  induction lines generalizing others with
  | nil =>
    cases others with
    | nil => rfl
    | cons other others => simp at h
  | cons line lines ih =>
    cases others with
    | nil => simp at h
    | cons other others =>
      obtain ⟨hline, hlater⟩ := List.forall_mem_cons.mp hlines
      obtain ⟨hother, hlaterOthers⟩ := List.forall_mem_cons.mp hothers
      simp only [List.flatMap_cons, List.append_assoc, List.singleton_append] at h
      obtain ⟨rfl, hrest⟩ := append_inj_of_head? (p := (· ≠ mark))
        (fun c hc => ne_of_mem_of_not_mem hc hline) (by simp)
        (fun c hc => ne_of_mem_of_not_mem hc hother) (by simp) h
      rw [ih hlater hlaterOthers (List.cons.inj hrest).2]

/-! ## 2.  Fields -/

theorem BlockingReason.name_inj {reason other : BlockingReason} :
    reason.name = other.name ↔ reason = other := by
  cases reason <;> cases other <;> simp [name]

theorem EntityKind.name_inj {kind other : EntityKind} : kind.name = other.name ↔ kind = other := by
  cases kind <;> cases other <;> simp [name]

theorem flagChar_inj {flag other : Bool} : flagChar flag = flagChar other ↔ flag = other := by
  cases flag <;> cases other <;> decide

/-- The statuses show the same: the same flags, and the same reason where there is a block. -/
@[mk_iff]
structure Status.LooksAlike (status other : Status) : Prop where
  withdrawable : status.withdrawable = other.withdrawable
  mayDirectlyWithdraw : status.mayDirectlyWithdraw = other.mayDirectlyWithdraw
  blocksAncestors : status.blocksAncestors = other.blocksAncestors
  blockingReason : status.blocksAncestors = true → status.blockingReason = other.blockingReason

namespace Status

variable {status other : Status}

theorem blockChars_eq_iff :
    status.blockChars = other.blockChars ↔
      status.blocksAncestors = other.blocksAncestors ∧
        (status.blocksAncestors = true → status.blockingReason = other.blockingReason) := by
  obtain ⟨_, _, blocks, reason⟩ := status
  obtain ⟨_, _, otherBlocks, otherReason⟩ := other
  cases blocks <;> cases otherBlocks <;> cases reason <;> cases otherReason <;>
    simp [blockChars, String.toList_inj, BlockingReason.name_inj]

/-- **A status is read off its part of the line**, as far as it shows. -/
theorem lineChars_eq_iff : status.lineChars = other.lineChars ↔ status.LooksAlike other := by
  have hparts : status.lineChars = other.lineChars ↔
      flagChar status.withdrawable = flagChar other.withdrawable ∧
        flagChar status.mayDirectlyWithdraw = flagChar other.mayDirectlyWithdraw ∧
        status.blockChars = other.blockChars := by
    unfold lineChars
    rw [List.append_assoc, List.append_assoc, List.append_cancel_left_eq, List.cons_append,
      List.cons_append, List.cons.injEq, List.append_cancel_left_eq, List.cons.injEq]
  rw [hparts, flagChar_inj, flagChar_inj, blockChars_eq_iff, looksAlike_iff]

end Status

namespace Node

variable {depth : Nat} {node other : Node}

/-- **A line of known depth is read off** as kind, identifier and status. -/
theorem lineChars_eq_iff :
    node.lineChars depth = other.lineChars depth ↔
      node.kind = other.kind ∧ node.id = other.id ∧ node.status.LooksAlike other.status := by
  have hfields : node.lineChars depth = other.lineChars depth ↔
      node.kind.name.toList ++ ' ' :: (node.id.hyphenated ++ node.status.lineChars) =
        other.kind.name.toList ++ ' ' :: (other.id.hyphenated ++ other.status.lineChars) := by
    simp only [lineChars, List.append_assoc, List.cons_append, List.append_cancel_left_eq]
  rw [hfields, ← EntityKind.name_inj, ← String.toList_inj, ← EntityId.hyphenated_inj,
    ← Status.lineChars_eq_iff]
  constructor
  · intro h
    have hspace : ∀ kind : EntityKind, ' ' ∉ kind.name.toList := fun kind =>
      kind.notMem_name (by decide)
    obtain ⟨hname, hrest⟩ := append_inj_of_head? (p := (· ≠ ' '))
      (fun c hc => ne_of_mem_of_not_mem hc (hspace node.kind)) (by simp)
      (fun c hc => ne_of_mem_of_not_mem hc (hspace other.kind)) (by simp) h
    obtain ⟨hid, hstatus⟩ := List.append_inj (List.cons.inj hrest).2 (by simp)
    exact ⟨hname, hid, hstatus⟩
  · rintro ⟨hname, hid, hstatus⟩
    rw [hname, hid, hstatus]

end Node

/-! ## 3.  Shape -/

mutual

/-- The nodes look alike: they show the same of themselves, and so does what is under them, in the
same places. -/
inductive Node.LooksAlike : Node → Node → Prop where
  | node (kind : EntityKind) (id : EntityId) {status other : Status} {children others : List Node} :
      status.LooksAlike other → Forest.LooksAlike children others →
      Node.LooksAlike ⟨kind, id, status, children⟩ ⟨kind, id, other, others⟩

/-- The nodes look alike one by one. -/
inductive Forest.LooksAlike : List Node → List Node → Prop where
  | nil : Forest.LooksAlike [] []
  | cons {node other : Node} {rest others : List Node} :
      Node.LooksAlike node other → Forest.LooksAlike rest others →
      Forest.LooksAlike (node :: rest) (other :: others)

end

/-- How many spaces a line begins with. -/
def indent (line : List Char) : Nat :=
  (line.takeWhile (· = ' ')).length

/-- The depth of a node is read off its line. -/
theorem indent_lineChars (depth : Nat) (node : Node) :
    indent (node.lineChars depth) = 2 * depth := by
  have hletter : ∀ rest, (node.kind.name.toList ++ rest).takeWhile (· = ' ') = [] := by
    intro rest
    cases node.kind <;> rfl
  rw [indent, Node.lineChars, List.append_assoc, List.append_assoc, List.takeWhile_append_of_pos,
    hletter, List.append_nil, List.length_replicate]
  intro c hc
  exact decide_eq_true (List.eq_of_mem_replicate hc)

namespace Forest

variable {depth : Nat}

theorem lt_indent_of_mem_lines {nodes : List Node} :
    ∀ line ∈ lines (depth + 1) nodes, 2 * depth < indent line := by
  intro line hline
  obtain ⟨level, below, hlevel, rfl⟩ := exists_of_mem_lines nodes hline
  rw [indent_lineChars]
  omega

theorem not_lt_indent_of_mem_head? {nodes : List Node} :
    ∀ line ∈ (lines depth nodes).head?, ¬ 2 * depth < indent line := by
  cases nodes with
  | nil => simp
  | cons node rest =>
    rw [lines_cons, Node.lines_eq]
    rintro line ⟨⟩
    rw [indent_lineChars]
    exact Nat.lt_irrefl _

/-- **The lines of some nodes are those of the first and those of the others**: what is deeper than
the first line belongs to the first node. -/
theorem lines_cons_inj {node other : Node} {rest others : List Node}
    (h : lines depth (node :: rest) = lines depth (other :: others)) :
    node.lines depth = other.lines depth ∧ lines depth rest = lines depth others := by
  rw [lines_cons, lines_cons, Node.lines_eq, Node.lines_eq, List.cons_append, List.cons_append] at h
  obtain ⟨hline, hlater⟩ := List.cons.inj h
  obtain ⟨hbelow, hrest⟩ := append_inj_of_head? lt_indent_of_mem_lines not_lt_indent_of_mem_head?
    lt_indent_of_mem_lines not_lt_indent_of_mem_head? hlater
  rw [Node.lines_eq, Node.lines_eq, hline, hbelow]
  exact ⟨rfl, hrest⟩

end Forest

mutual

/-- Nodes with the same lines look alike. -/
theorem Node.looksAlike_of_lines_eq {depth : Nat} :
    (node other : Node) → node.lines depth = other.lines depth → Node.LooksAlike node other
  | ⟨kind, id, status, children⟩, ⟨otherKind, otherId, other, others⟩, h => by
    rw [Node.lines_eq, Node.lines_eq] at h
    obtain ⟨hline, hbelow⟩ := List.cons.inj h
    obtain ⟨hkind, hid, hstatus⟩ := Node.lineChars_eq_iff.mp hline
    cases hkind
    cases hid
    exact .node kind id hstatus (Forest.looksAlike_of_lines_eq children others hbelow)

theorem Forest.looksAlike_of_lines_eq {depth : Nat} :
    (nodes others : List Node) → Forest.lines depth nodes = Forest.lines depth others →
      Forest.LooksAlike nodes others
  | [], [], _ => .nil
  | [], other :: others, h => by
    rw [Forest.lines_nil, Forest.lines_cons, Node.lines_eq] at h
    cases h
  | node :: rest, [], h => by
    rw [Forest.lines_nil, Forest.lines_cons, Node.lines_eq] at h
    cases h
  | node :: rest, other :: others, h => by
    obtain ⟨hnode, hrest⟩ := Forest.lines_cons_inj h
    exact .cons (Node.looksAlike_of_lines_eq node other hnode)
      (Forest.looksAlike_of_lines_eq rest others hrest)

end

mutual

/-- Nodes that look alike have the same lines. -/
theorem Node.LooksAlike.lines_eq {depth : Nat} {node other : Node} :
    Node.LooksAlike node other → node.lines depth = other.lines depth
  | @Node.LooksAlike.node kind id status other children others hstatus hchildren => by
    have hline : Node.lineChars depth ⟨kind, id, status, children⟩ =
        Node.lineChars depth ⟨kind, id, other, others⟩ :=
      Node.lineChars_eq_iff.mpr ⟨rfl, rfl, hstatus⟩
    rw [Node.lines_eq, Node.lines_eq, hline, hchildren.lines_eq]

theorem Forest.LooksAlike.lines_eq {depth : Nat} {nodes others : List Node} :
    Forest.LooksAlike nodes others → Forest.lines depth nodes = Forest.lines depth others
  | .nil => rfl
  | .cons hnode hrest => by
    rw [Forest.lines_cons, Forest.lines_cons, hnode.lines_eq, hrest.lines_eq]

end

namespace Tree

/-- **The text of a tree loses nothing that it shows.**  Two trees have the same text exactly if
they have the same shape and agree at every node in the kind, the identifier, the three flags and,
where there is a block, its reason. -/
theorem render_eq_iff {tree other : Tree} :
    tree.render = other.render ↔ Node.LooksAlike tree.root other.root := by
  rw [← String.toList_inj, toList_render, toList_render]
  constructor
  · intro h
    have hlines := flatMap_terminated_inj (fun _ => Node.lineFeed_notMem_of_mem_lines)
      (fun _ => Node.lineFeed_notMem_of_mem_lines) h
    exact Node.looksAlike_of_lines_eq tree.root other.root hlines
  · intro h
    rw [h.lines_eq]

end Tree
end WithdrawalCascade
