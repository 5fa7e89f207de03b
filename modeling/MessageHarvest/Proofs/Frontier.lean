/-
**The frontier of a tree.**

Leaves are looked for with a stack of pending nodes, which holds siblings from several levels of the
tree at once. What is found in the end has a plain description by recursion on the tree, and it is
found after no more steps than the tree has nodes. Nothing is asked of the ranges of the nodes.

* `Node.frontier` — the leaves of a tree, by recursion on the tree.
* `Traversal` — the search step by step: what has been found, and what is pending.
* `Traversal.found_append_next` — a step keeps what has been found and what is still to be found.
* `Traversal.iterate_next` — the search ends.
* `traversal_yields_frontier` — it ends with the frontier.
-/

import Mathlib.Logic.Function.Iterate
import MessageHarvest.Proofs.TreeShape

namespace MessageHarvest

namespace Node

/-! ### The frontier -/

/-- The frontier of a node: nothing if it is empty, itself if it is atomic or has no children, and
otherwise the frontiers of its children in order. -/
def frontier : Node → List Node
  | ⟨kind, isNamed, startByte, endByte, startRow, endRow, children⟩ =>
    let node : Node := ⟨kind, isNamed, startByte, endByte, startRow, endRow, children⟩
    if node.isEmpty then []
    else if node.isAtomic || children.isEmpty then [node]
    else frontiers children
where
  /-- The frontiers of several nodes, one behind the other. -/
  frontiers : List Node → List Node
    | [] => []
    | node :: rest => frontier node ++ frontiers rest

theorem frontiers_eq_flatMap (nodes : List Node) :
    frontier.frontiers nodes = nodes.flatMap frontier := by
  induction nodes with
  | nil => rfl
  | cons node rest ih => rw [frontier.frontiers, List.flatMap_cons, ih]

theorem frontier_eq (node : Node) :
    node.frontier =
      if node.isEmpty then []
      else if node.isAtomic || node.children.isEmpty then [node]
      else node.children.flatMap frontier := by
  cases node
  rw [frontier, frontiers_eq_flatMap]

/-- **The leaves of a tree are its frontier.** -/
theorem leaves_eq_frontier (root : Node) : root.leaves = root.frontier := by
  induction root using induction_children with
  | step node ih => rw [leaves_eq, frontier_eq, List.flatMap_congr ih]

end Node

/-! ### Looking for leaves step by step -/

/-- A search for leaves: those found so far, and the stack of pending nodes, its top first. -/
structure Traversal where
  found : List Node
  pending : List Node

namespace Traversal

/-- Nothing has been found, and the whole tree is pending. -/
def start (root : Node) : Traversal where
  found := []
  pending := [root]

/-- The search after one more step. The node on top of the stack is passed over, found, or replaced
by its children; a search with nothing pending has ended. -/
def next : Traversal → Traversal
  | ⟨found, []⟩ => ⟨found, []⟩
  | ⟨found, node :: rest⟩ =>
    if node.isEmpty then ⟨found, rest⟩
    else if node.isAtomic || node.children.isEmpty then ⟨found ++ [node], rest⟩
    else ⟨found, node.children ++ rest⟩

/-- **What a step does to the node on top of the stack**: it is passed over, found, or replaced by
its children. -/
theorem next_cases (found : List Node) (node : Node) (rest : List Node) :
    (node.isEmpty = true ∧ next ⟨found, node :: rest⟩ = ⟨found, rest⟩) ∨
    (¬ node.isEmpty = true ∧ (node.isAtomic || node.children.isEmpty) = true ∧
      next ⟨found, node :: rest⟩ = ⟨found ++ [node], rest⟩) ∨
    (¬ node.isEmpty = true ∧ ¬ (node.isAtomic || node.children.isEmpty) = true ∧
      next ⟨found, node :: rest⟩ = ⟨found, node.children ++ rest⟩) := by
  by_cases empty : node.isEmpty = true
  · exact Or.inl ⟨empty, if_pos empty⟩
  · by_cases stops : (node.isAtomic || node.children.isEmpty) = true
    · exact Or.inr (Or.inl ⟨empty, stops, (if_neg empty).trans (if_pos stops)⟩)
    · exact Or.inr (Or.inr ⟨empty, stops, (if_neg empty).trans (if_neg stops)⟩)

/-- A step keeps what has been found together with what is still to be found. -/
theorem found_append_next (traversal : Traversal) :
    traversal.next.found ++ Node.pendingLeaves traversal.next.pending =
      traversal.found ++ Node.pendingLeaves traversal.pending := by
  obtain ⟨found, pending⟩ := traversal
  cases pending with
  | nil => rfl
  | cons node rest =>
    rw [Node.pendingLeaves]
    rcases next_cases found node rest with
      ⟨empty, step⟩ | ⟨shown, stops, step⟩ | ⟨shown, passes, step⟩
    · rw [step, if_pos empty]
    · rw [step, if_neg shown, if_pos stops, List.append_assoc, List.singleton_append]
    · rw [step, if_neg shown, if_neg passes]

/-- A step takes a node away from what is pending, and adds nothing that was not below it. -/
theorem sizes_next_lt (found : List Node) (node : Node) (rest : List Node) :
    Node.size.sizes (next ⟨found, node :: rest⟩).pending < Node.size.sizes (node :: rest) := by
  rw [Node.sizes_cons, Node.size_eq]
  rcases next_cases found node rest with ⟨_, step⟩ | ⟨_, _, step⟩ | ⟨_, _, step⟩
  · rw [step]
    show Node.size.sizes rest < _
    omega
  · rw [step]
    show Node.size.sizes rest < _
    omega
  · rw [step, Node.sizes_append]
    omega

/-- **The search ends**, at the latest after as many steps as there are nodes in the pending trees,
and all leaves have then been found. -/
theorem iterate_next (traversal : Traversal) {steps : Nat}
    (enough : Node.size.sizes traversal.pending ≤ steps) :
    next^[steps] traversal = ⟨traversal.found ++ Node.pendingLeaves traversal.pending, []⟩ := by
  induction steps generalizing traversal with
  | zero =>
    obtain ⟨found, pending⟩ := traversal
    cases pending with
    | nil =>
      show Traversal.mk found [] = ⟨found ++ Node.pendingLeaves [], []⟩
      rw [Node.pendingLeaves, List.append_nil]
    | cons node rest =>
      rw [Node.sizes_cons, Node.size_eq] at enough
      omega
  | succ steps ih =>
    -- The step leaves fewer nodes to look at, unless none was left, and it keeps the result.
    have fewer : Node.size.sizes traversal.next.pending ≤ steps := by
      obtain ⟨found, pending⟩ := traversal
      cases pending with
      | nil => exact Nat.zero_le steps
      | cons node rest =>
        exact Nat.le_of_lt_succ (Nat.lt_of_lt_of_le (sizes_next_lt found node rest) enough)
    rw [Function.iterate_succ_apply, ih traversal.next fewer, found_append_next]

end Traversal

/-- **Searching with a stack yields the frontier.** The leaves of every tree are its frontier, in
order, and the search that finds them has nothing pending any more after as many steps as the tree
has nodes. -/
theorem traversal_yields_frontier (root : Node) :
    root.leaves = root.frontier ∧
      Traversal.next^[root.size] (Traversal.start root) = ⟨root.frontier, []⟩ := by
  have whole : Node.size.sizes (Traversal.start root).pending ≤ root.size :=
    Nat.le_of_eq (Nat.add_zero root.size)
  refine ⟨root.leaves_eq_frontier, ?_⟩
  rw [Traversal.iterate_next _ whole]
  show Traversal.mk root.leaves [] = _
  rw [root.leaves_eq_frontier]

end MessageHarvest
