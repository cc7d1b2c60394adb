import WithdrawalCascade.Eligibility
import WithdrawalCascade.Fault

/-!
# Withdrawable trees

A node becomes a withdrawable tree once no identifier in it comes up twice, for only then does the
table of annotations speak of one node under each identifier.
-/

namespace WithdrawalCascade

/-- The first of the identifiers that is among `seen` or came up before. -/
def firstRepeated? (seen : List EntityId) : List EntityId → Option EntityId
  | [] => none
  | id :: rest => if id ∈ seen then some id else firstRepeated? (id :: seen) rest

/-- Where nothing is repeated all identifiers differ, from one another and from those seen. -/
theorem nodup_of_firstRepeated?_eq_none {seen ids : List EntityId}
    (h : firstRepeated? seen ids = none) : ids.Nodup ∧ ∀ id ∈ ids, id ∉ seen := by
  induction ids generalizing seen with
  | nil => simp
  | cons id rest ih =>
    rw [firstRepeated?] at h
    split at h
    · simp at h
    · next notSeen =>
      obtain ⟨distinct, fresh⟩ := ih h
      refine ⟨List.nodup_cons.2 ⟨fun mem => fresh id mem (by simp), distinct⟩, ?_⟩
      intro other mem
      rcases List.mem_cons.1 mem with rfl | mem
      · exact notSeen
      · exact fun seen => fresh other mem (List.mem_cons_of_mem _ seen)

namespace Node

/-- A node and its descendants, in pre-order. -/
def all (root : Node) : List Node :=
  root :: root.descendants

end Node

/-- A tree in which every identifier names one node.  Its root is the entity that was withdrawn. -/
structure Tree where
  root : Node
  ids_nodup : (root.all.map Node.id).Nodup

namespace Tree

/-- The fault of a node under which the identifier `id` comes up again. -/
def repeatedId (id : EntityId) : Fault :=
  .validation ("entity id " ++ id.render ++ " appears more than once in withdrawable tree")

/-- The tree of a node, unless an identifier comes up twice.  The fault names the first repetition
in pre-order, the root first. -/
def ofRoot (root : Node) : Except Fault Tree :=
  match h : firstRepeated? [] (root.all.map Node.id) with
  | none => .ok ⟨root, (nodup_of_firstRepeated?_eq_none h).1⟩
  | some id => .error (repeatedId id)

/-- The annotations of a tree. -/
def blocking (tree : Tree) : Annotations :=
  Annotations.compute tree.root

/-- Whether anything in the tree keeps the root itself from being withdrawn. -/
def isBlocked (tree : Tree) : Bool :=
  tree.blocking.isSubtreeBlocked tree.root.id

/-- The number of nodes, the root included. -/
def nodeCount (tree : Tree) : Nat :=
  1 + tree.root.descendants.length

/-- The nodes, the root included, that the user may withdraw right now: the entity can be
withdrawn, the user may act on it, and nothing under it blocks. -/
def directlyWithdrawable (tree : Tree) : List Node :=
  let annotations := tree.blocking
  tree.root.all.filter fun node =>
    node.status.withdrawable && node.status.mayDirectlyWithdraw &&
      !annotations.isSubtreeBlocked node.id

end Tree
end WithdrawalCascade
