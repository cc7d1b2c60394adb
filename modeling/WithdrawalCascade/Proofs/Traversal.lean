import Mathlib.Computability.StateTransition
import WithdrawalCascade.Proofs.Descent
import WithdrawalCascade.Sample

/-!
# The walk over a tree, turn by turn

The descendants of a node are listed by a loop over a stack.  `Node.walk` has the top of the stack
in front and the listing as its value, so it says neither how the stack is kept nor what a single
turn does.  Here the loop is a transition between states (`Traversal.turn`).  A state holds what has
been listed and a stack whose top stands at the end, so the children of a node go onto it in reverse
order.

A turn asks of the entry that it takes off the stack only what stands under that entry.  So the same
loop can be run over nodes and over the occurrences of nodes in a tree, which are nodes together
with the path that leads to them.  The second run tells apart what is equal as a node, for instance
two bookings with one identifier under one request.

* `Traversal.turn_map`: the two runs keep in step.
* `Traversal.toCome_concat`: what is still to come are the stacked entries, from the top of the
  stack down, each followed by what is under it; a turn lists the first entry of that.
* `Traversal.eval_turn`: from every state the loop ends, with what was to come added to the listing.
* `Node.pairwise_occurrences`, `Node.mem_occurrences_children_iff`: the occurrences under a node are
  listed in ascending order of their paths, and all of them are listed.
* `Traversal.ends_with_descendants`: the loop from the children of a node ends in the descendants of
  the node.
-/

namespace WithdrawalCascade

/-! ## 1.  Turns -/

/-- A traversal on its way: the entries listed so far, and the stack of those that are to be visited
next, its top at the end. -/
structure Traversal (α : Type) where
  listed : List α
  stack : List α

namespace Traversal

variable {α β : Type}

/-- One turn: the top comes off the stack, is listed, and what is directly under it goes onto the
stack in reverse order.  There is no turn once the stack is empty. -/
def turn (under : α → List α) (traversal : Traversal α) : Option (Traversal α) :=
  traversal.stack.getLast?.map fun top =>
    ⟨traversal.listed ++ [top], traversal.stack.dropLast ++ (under top).reverse⟩

variable {under listing : α → List α}

theorem turn_nil (listed : List α) : turn under ⟨listed, []⟩ = none :=
  rfl

theorem turn_concat (listed stack : List α) (top : α) :
    turn under ⟨listed, stack ++ [top]⟩ = some ⟨listed ++ [top], stack ++ (under top).reverse⟩ := by
  rw [turn, List.getLast?_concat, List.dropLast_concat, Option.map_some]

/-- A traversal with another entry in place of each of its entries. -/
def map (image : α → β) (traversal : Traversal α) : Traversal β :=
  ⟨traversal.listed.map image, traversal.stack.map image⟩

/-- **Turns keep in step.**  Where what is under an image is the image of what is under an entry, a
traversal of images takes the turns that the traversal takes. -/
theorem turn_map {image : α → β} {underImage : β → List β}
    (hunder : ∀ entry, underImage (image entry) = (under entry).map image)
    (traversal : Traversal α) :
    turn underImage (traversal.map image) = (turn under traversal).map (map image) := by
  obtain ⟨listed, stack⟩ := traversal
  rcases List.eq_nil_or_concat' stack with rfl | ⟨below, top, rfl⟩
  · rfl
  · show turn underImage ⟨listed.map image, (below ++ [top]).map image⟩ = _
    rw [List.map_append, List.map_singleton, turn_concat, turn_concat, Option.map_some, hunder, map,
      List.map_append, List.map_append, List.map_singleton, List.map_reverse]

/-! ## 2.  What is still to come -/

/-- A listing is a pre-order if it gives for each entry the entry itself and then, one after the
other, the listings of what is directly under it. -/
def IsPreorder (under listing : α → List α) : Prop :=
  ∀ entry, listing entry = entry :: (under entry).flatMap listing

/-- What is still to come while `stack` is the stack: the listings of the stacked entries, from the
top of the stack down. -/
def toCome (listing : α → List α) (stack : List α) : List α :=
  stack.reverse.flatMap listing

/-- **A turn lists the first of what is to come, and leaves the rest to come.** -/
theorem toCome_concat (hpreorder : IsPreorder under listing) (stack : List α) (top : α) :
    toCome listing (stack ++ [top]) = top :: toCome listing (stack ++ (under top).reverse) := by
  rw [toCome, toCome, List.reverse_append, List.reverse_singleton, List.singleton_append,
    List.flatMap_cons, hpreorder top, List.reverse_append, List.reverse_reverse,
    List.flatMap_append, List.cons_append]

/-- From every state the loop comes to an empty stack.  A turn may put many entries onto the stack,
but it leaves one entry less to come. -/
theorem reaches_turn (hpreorder : IsPreorder under listing) (listed stack : List α) :
    StateTransition.Reaches (turn under) ⟨listed, stack⟩
      ⟨listed ++ toCome listing stack, []⟩ := by
  rcases List.eq_nil_or_concat' stack with hempty | ⟨below, top, hstack⟩
  · rw [hempty, toCome, List.reverse_nil, List.flatMap_nil, List.append_nil]
    exact Relation.ReflTransGen.refl
  · have hlater := reaches_turn hpreorder (listed ++ [top]) (below ++ (under top).reverse)
    rw [List.append_assoc, List.singleton_append, ← toCome_concat hpreorder] at hlater
    rw [hstack]
    exact Relation.ReflTransGen.head (turn_concat listed below top) hlater
termination_by (toCome listing stack).length
decreasing_by
  rw [hstack, toCome_concat hpreorder, List.length_cons]
  exact Nat.lt_succ_self _

/-- **The loop ends**, whatever is on the stack, with what was to come added to the listing. -/
theorem eval_turn (hpreorder : IsPreorder under listing) (listed stack : List α) :
    StateTransition.eval (turn under) ⟨listed, stack⟩ =
      Part.some ⟨listed ++ toCome listing stack, []⟩ :=
  Part.eq_some_iff.mpr
    (StateTransition.mem_eval.mpr ⟨reaches_turn hpreorder listed stack, turn_nil _⟩)

/-- With what is directly under an entry on the stack, the loop lists what is under the entry. -/
theorem eval_turn_under (hpreorder : IsPreorder under listing) (entry : α) :
    StateTransition.eval (turn under) ⟨[], (under entry).reverse⟩ =
      Part.some ⟨(under entry).flatMap listing, []⟩ := by
  have hend := eval_turn hpreorder [] (under entry).reverse
  rwa [toCome, List.reverse_reverse, List.nil_append] at hend

end Traversal

/-! ## 3.  Occurrences -/

/-- The node to which a path leads down: which child to go to, counted from zero, and which of its
children then. -/
def Node.descend? (node : Node) : List Nat → Option Node
  | [] => some node
  | place :: path => node.children[place]?.bind fun child => child.descend? path

/-- A node where it occurs in a tree: the path that leads to it from the root, and the node. -/
structure Occurrence where
  path : List Nat
  node : Node

/-- The occurrences of the children of a node that occurs somewhere. -/
def Occurrence.children (occurrence : Occurrence) : List Occurrence :=
  occurrence.node.children.mapIdx fun place child => ⟨occurrence.path ++ [place], child⟩

/-- Without the paths, they are the children of the node. -/
theorem Occurrence.map_node_children (occurrence : Occurrence) :
    occurrence.children.map Occurrence.node = occurrence.node.children := by
  rw [children, List.mapIdx_eq_zipIdx_map, List.map_map]
  exact List.zipIdx_map_fst 0 occurrence.node.children

mutual

/-- The occurrences in the subtree of a node to which `path` leads, in pre-order. -/
def Node.occurrences (path : List Nat) : Node → List Occurrence
  | ⟨kind, id, status, children⟩ =>
    ⟨path, ⟨kind, id, status, children⟩⟩ :: Forest.occurrences path 0 children

/-- The occurrences in the subtrees of some neighbouring children of the node to which `path` leads.
The first of them is the child with the number `place`. -/
def Forest.occurrences (path : List Nat) (place : Nat) : List Node → List Occurrence
  | [] => []
  | node :: rest =>
    node.occurrences (path ++ [place]) ++ Forest.occurrences path (place + 1) rest

end

theorem Node.occurrences_eq (path : List Nat) (node : Node) :
    node.occurrences path = ⟨path, node⟩ :: Forest.occurrences path 0 node.children := by
  cases node
  rw [Node.occurrences]

@[simp] theorem Forest.occurrences_nil (path : List Nat) (place : Nat) :
    Forest.occurrences path place [] = [] := by
  rw [Forest.occurrences]

@[simp] theorem Forest.occurrences_cons (path : List Nat) (place : Nat) (node : Node)
    (rest : List Node) :
    Forest.occurrences path place (node :: rest) =
      node.occurrences (path ++ [place]) ++ Forest.occurrences path (place + 1) rest := by
  rw [Forest.occurrences]

mutual

/-- Without the paths, the occurrences are the nodes in pre-order. -/
theorem Node.map_node_occurrences (path : List Nat) :
    (node : Node) → (node.occurrences path).map Occurrence.node = node.preorder
  | ⟨kind, id, status, children⟩ => by
    rw [Node.occurrences_eq, Node.preorder_eq, List.map_cons,
      Forest.map_node_occurrences path 0 children]

theorem Forest.map_node_occurrences (path : List Nat) (place : Nat) :
    (nodes : List Node) →
      (Forest.occurrences path place nodes).map Occurrence.node = Forest.preorder nodes
  | [] => by rw [Forest.occurrences_nil, Forest.preorder_nil, List.map_nil]
  | node :: rest => by
    rw [Forest.occurrences_cons, Forest.preorder_cons, List.map_append,
      Node.map_node_occurrences (path ++ [place]) node,
      Forest.map_node_occurrences path (place + 1) rest]

end

mutual

/-- The occurrences in a subtree are what one comes to by going on from its top. -/
theorem Node.mem_occurrences_iff {path : List Nat} {occurrence : Occurrence} :
    (node : Node) →
      (occurrence ∈ node.occurrences path ↔
        ∃ down, occurrence.path = path ++ down ∧ node.descend? down = some occurrence.node)
  | ⟨kind, id, status, children⟩ => by
    rw [Node.occurrences_eq, List.mem_cons, Forest.mem_occurrences_iff children]
    constructor
    · rintro (rfl | ⟨place, child, down, hchild, hpath, hdown⟩)
      · exact ⟨[], (List.append_nil path).symm, rfl⟩
      · refine ⟨place :: down, by rw [hpath, Nat.zero_add], ?_⟩
        rw [Node.descend?, hchild, Option.bind_some, hdown]
    · rintro ⟨down, hpath, hdown⟩
      rcases down with _ | ⟨place, down⟩
      · obtain ⟨path', node⟩ := occurrence
        rw [List.append_nil] at hpath
        rw [Node.descend?, Option.some.injEq] at hdown
        subst hpath hdown
        exact Or.inl rfl
      · obtain ⟨child, hchild, hdown⟩ := Option.bind_eq_some_iff.mp hdown
        exact Or.inr ⟨place, child, down, hchild, by rw [hpath, Nat.zero_add], hdown⟩

theorem Forest.mem_occurrences_iff {path : List Nat} {place : Nat} {occurrence : Occurrence} :
    (nodes : List Node) →
      (occurrence ∈ Forest.occurrences path place nodes ↔
        ∃ further child down, nodes[further]? = some child ∧
          occurrence.path = path ++ (place + further) :: down ∧
          child.descend? down = some occurrence.node)
  | [] => by simp
  | node :: rest => by
    rw [Forest.occurrences_cons, List.mem_append, Node.mem_occurrences_iff node,
      Forest.mem_occurrences_iff rest]
    constructor
    · rintro (⟨down, hpath, hdown⟩ | ⟨further, child, down, hchild, hpath, hdown⟩)
      · exact ⟨0, node, down, rfl, by rw [hpath, List.append_assoc]; rfl, hdown⟩
      · refine ⟨further + 1, child, down, hchild, ?_, hdown⟩
        rw [hpath, Nat.add_assoc, Nat.add_comm 1]
    · rintro ⟨further, child, down, hchild, hpath, hdown⟩
      rcases further with _ | further
      · rw [List.getElem?_cons_zero, Option.some.injEq] at hchild
        subst hchild
        exact Or.inl ⟨down, by rw [hpath, List.append_assoc]; rfl, hdown⟩
      · refine Or.inr ⟨further, child, down, hchild, ?_, hdown⟩
        rw [hpath, Nat.add_assoc, Nat.add_comm 1]

end

mutual

/-- The paths ascend: a node comes before what is under it, and what is under a child before what is
under a later child. -/
theorem Node.pairwise_occurrences (path : List Nat) :
    (node : Node) → (node.occurrences path).Pairwise fun first second => first.path < second.path
  | ⟨kind, id, status, children⟩ => by
    rw [Node.occurrences_eq, List.pairwise_cons]
    refine ⟨fun below hbelow => ?_, Forest.pairwise_occurrences path 0 children⟩
    obtain ⟨place, child, down, -, hpath, -⟩ := (Forest.mem_occurrences_iff children).mp hbelow
    have hlonger : path ++ [] < path ++ (0 + place) :: down :=
      List.append_left_lt (List.nil_lt_cons _ _)
    rw [List.append_nil] at hlonger
    rw [hpath]
    exact hlonger

theorem Forest.pairwise_occurrences (path : List Nat) (place : Nat) :
    (nodes : List Node) → (Forest.occurrences path place nodes).Pairwise
      fun first second => first.path < second.path
  | [] => by
    rw [Forest.occurrences_nil]
    exact List.Pairwise.nil
  | node :: rest => by
    rw [Forest.occurrences_cons, List.pairwise_append]
    refine ⟨Node.pairwise_occurrences (path ++ [place]) node,
      Forest.pairwise_occurrences path (place + 1) rest, fun first hfirst second hsecond => ?_⟩
    obtain ⟨down, hpath, -⟩ := (Node.mem_occurrences_iff node).mp hfirst
    obtain ⟨further, child, later, -, hlater, -⟩ := (Forest.mem_occurrences_iff rest).mp hsecond
    -- the two paths part below `path`, where the second goes to a child further on
    have hplace : place < place + 1 + further := by omega
    rw [hpath, hlater, List.append_assoc]
    exact List.append_left_lt (List.cons_lt_cons_iff.mpr (Or.inl hplace))

end

namespace Occurrence

/-- What occurs in the subtree of an occurrence, in pre-order. -/
def listing (occurrence : Occurrence) : List Occurrence :=
  occurrence.node.occurrences occurrence.path

/-- The occurrences in the subtrees of some neighbouring children, child by child. -/
theorem occurrences_eq_flatMap (path : List Nat) (place : Nat) (nodes : List Node) :
    Forest.occurrences path place nodes =
      (nodes.mapIdx fun further child =>
        (⟨path ++ [place + further], child⟩ : Occurrence)).flatMap listing := by
  induction nodes generalizing place with
  | nil => rw [Forest.occurrences_nil, List.mapIdx_nil, List.flatMap_nil]
  | cons node rest ih =>
    rw [Forest.occurrences_cons, ih (place + 1), List.mapIdx_cons, List.flatMap_cons]
    simp only [listing, Nat.add_zero, Nat.add_assoc, Nat.add_comm 1]

/-- What occurs directly under an occurrence, each with what is under it in turn. -/
theorem flatMap_listing_children (occurrence : Occurrence) :
    occurrence.children.flatMap listing =
      Forest.occurrences occurrence.path 0 occurrence.node.children := by
  rw [occurrences_eq_flatMap, children]
  simp only [Nat.zero_add]

theorem isPreorder_listing : Traversal.IsPreorder children listing := by
  intro occurrence
  rw [flatMap_listing_children, listing, Node.occurrences_eq]

end Occurrence

/-- **Every way down is found.**  The occurrences under a node are those to which the paths lead,
other than the path that stays where it is. -/
theorem Node.mem_occurrences_children_iff {root node : Node} {path : List Nat} :
    (⟨path, node⟩ : Occurrence) ∈ Forest.occurrences [] 0 root.children ↔
      path ≠ [] ∧ root.descend? path = some node := by
  rw [Forest.mem_occurrences_iff]
  constructor
  · rintro ⟨place, child, down, hchild, rfl, hdown⟩
    rw [List.nil_append, Nat.zero_add, Node.descend?, hchild, Option.bind_some]
    exact ⟨List.cons_ne_nil place down, hdown⟩
  · rintro ⟨hpath, hnode⟩
    obtain ⟨place, down, rfl⟩ := List.exists_cons_of_ne_nil hpath
    obtain ⟨child, hchild, hdown⟩ := Option.bind_eq_some_iff.mp hnode
    exact ⟨place, child, down, hchild, by rw [List.nil_append, Nat.zero_add], hdown⟩

/-- Bookings that are equal as nodes are found in each of their places. -/
example :
    (Forest.occurrences [] 0
      [Sample.node (EntityId.ofNat 1) .placementRequest true
          [Sample.node (EntityId.ofNat 2) .booking true [],
            Sample.node (EntityId.ofNat 2) .booking true []],
        Sample.node (EntityId.ofNat 2) .booking true []]).map Occurrence.path =
      [[0], [0, 0], [0, 1], [1]] := by
  decide

/-! ## 4.  The loop over a tree -/

/-- Some nodes in turn, each with its descendants. -/
theorem Forest.preorder_eq_flatMap_all (nodes : List Node) :
    Forest.preorder nodes = nodes.flatMap Node.all := by
  rw [Forest.preorder_eq_flatMap]
  exact List.flatMap_congr fun node _ => node.all_eq_preorder.symm

namespace Node

/-- The descendants of a node are, child by child, the child and then its descendants. -/
theorem descendants_eq_flatMap (root : Node) : root.descendants = root.children.flatMap all := by
  rw [descendants_eq_preorder, Forest.preorder_eq_flatMap_all]

theorem isPreorder_all : Traversal.IsPreorder children all := by
  intro root
  rw [← descendants_eq_flatMap, all]

/-- The walk lists what is to come, with the top of the stack in front. -/
theorem walk_reverse (stack : List Node) : walk stack.reverse = Traversal.toCome all stack := by
  rw [walk_eq_preorder, Forest.preorder_eq_flatMap_all, Traversal.toCome]

/-- No node is equal to one under it, which has fewer nodes under it. -/
theorem notMem_descendants (root : Node) : root ∉ root.descendants := by
  intro hmem
  rw [descendants_eq_preorder] at hmem
  have hfits : root.preorder.length ≤ (Forest.preorder root.children).length :=
    (Forest.preorder_isInfix root.children hmem).length_le
  rw [length_preorder, Forest.length_preorder, size_eq] at hfits
  exact absurd hfits (Nat.not_succ_le_self _)

end Node

namespace Traversal

/-- The loop that starts with the children of a node ends, and has then listed the descendants of
the node: child by child, the child and then its descendants.  The node is not among them.

Run over occurrences instead of nodes, the loop takes the same turns, and it ends with occurrences
of these same nodes.  Their paths ascend, so each is there once, and they are the paths that lead
down from the node to another, with the nodes to which they lead.

Whatever has been listed and whatever is on the stack, what the loop has still to list are the
stacked nodes, from the top of the stack down, each followed by its descendants. -/
theorem ends_with_descendants (root : Node) :
    StateTransition.eval (turn Node.children) ⟨[], root.children.reverse⟩ =
        Part.some ⟨root.descendants, []⟩ ∧
      (root.descendants = root.children.flatMap fun child => child :: child.descendants) ∧
      root ∉ root.descendants ∧
      (∀ traversal : Traversal Occurrence,
        turn Node.children (traversal.map Occurrence.node) =
          (turn Occurrence.children traversal).map (map Occurrence.node)) ∧
      (∃ found : List Occurrence,
        StateTransition.eval (turn Occurrence.children)
            ⟨[], (Occurrence.children ⟨[], root⟩).reverse⟩ = Part.some ⟨found, []⟩ ∧
          found.map Occurrence.node = root.descendants ∧
          (found.map Occurrence.path).Pairwise (· < ·) ∧
          (found.map Occurrence.path).Nodup ∧
          ∀ path node, ⟨path, node⟩ ∈ found ↔ path ≠ [] ∧ root.descend? path = some node) ∧
      ∀ listed stack : List Node,
        StateTransition.eval (turn Node.children) ⟨listed, stack⟩ =
            Part.some ⟨listed ++ Node.walk stack.reverse, []⟩ ∧
          Node.walk stack.reverse =
            stack.reverse.flatMap fun node => node :: node.descendants := by
  have hfound := eval_turn_under Occurrence.isPreorder_listing ⟨[], root⟩
  rw [Occurrence.flatMap_listing_children] at hfound
  have hascending : ((Forest.occurrences [] 0 root.children).map Occurrence.path).Pairwise
      (· < ·) :=
    List.pairwise_map.mpr (Forest.pairwise_occurrences [] 0 root.children)
  refine ⟨?_, root.descendants_eq_flatMap, root.notMem_descendants,
    turn_map fun occurrence => occurrence.map_node_children.symm,
    ⟨Forest.occurrences [] 0 root.children, hfound, ?_, hascending, ?_, ?_⟩, ?_⟩
  · rw [root.descendants_eq_flatMap]
    exact eval_turn_under Node.isPreorder_all root
  · rw [Forest.map_node_occurrences, root.descendants_eq_preorder]
  · refine hascending.imp ?_
    rintro path _ hless rfl
    exact List.lt_irrefl path hless
  · exact fun path node => Node.mem_occurrences_children_iff
  · intro listed stack
    rw [Node.walk_reverse]
    exact ⟨eval_turn Node.isPreorder_all listed stack, rfl⟩

end Traversal
end WithdrawalCascade
