import WithdrawalCascade.Tree.Basic

/-!
# Trees as text

One line for each node in pre-order, indented by two spaces for each level, with the kind, the
identifier and the flags of the node.  The reason of a block is shown only where there is a block.
-/

namespace WithdrawalCascade

/-- How a flag is shown. -/
def flagChar (flag : Bool) : Char :=
  if flag then 'Y' else 'N'

namespace Status

/-- The part of a line that shows a block. -/
def blockChars (status : Status) : List Char :=
  if status.blocksAncestors then
    ", BLOCKING".toList ++
      match status.blockingReason with
      | some reason => " (".toList ++ reason.name.toList ++ [')']
      | none => []
  else []

/-- The part of a line that shows a status. -/
def lineChars (status : Status) : List Char :=
  ", withdrawable:".toList ++ flagChar status.withdrawable ::
    ", mayDirectlyWithdraw:".toList ++ flagChar status.mayDirectlyWithdraw :: status.blockChars

end Status

namespace Node

/-- The line of a node that lies `depth` levels below the root, without its end. -/
def lineChars (depth : Nat) (node : Node) : List Char :=
  List.replicate (2 * depth) ' ' ++ node.kind.name.toList ++ ' ' :: node.id.hyphenated ++
    node.status.lineChars

end Node

mutual

/-- The lines of a node at the given depth and of all nodes under it. -/
def Node.renderChars (depth : Nat) : Node → List Char
  | ⟨kind, id, status, children⟩ =>
    Node.lineChars depth ⟨kind, id, status, children⟩ ++
      '\n' :: Forest.renderChars (depth + 1) children

/-- The lines of some nodes at one depth, each with the nodes under it. -/
def Forest.renderChars (depth : Nat) : List Node → List Char
  | [] => []
  | node :: rest => node.renderChars depth ++ Forest.renderChars depth rest

end

/-- The text of a tree. -/
def Tree.render (tree : Tree) : String :=
  String.ofList (tree.root.renderChars 0)

end WithdrawalCascade
