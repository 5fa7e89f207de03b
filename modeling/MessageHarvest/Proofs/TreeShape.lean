/-
**Well-formed trees.**

A tree is well formed over a text if every node covers a range between two boundaries of the text and
the children of a node lie inside it, one behind the other. Kinds, nesting, empty nodes and bytes
that no child covers are free. The leaves of such a tree follow one another.

* `Node.induction_children` — induction over trees.
* `Node.Throughout` — what holds of a node and of all that is below it.
* `Node.WellFormed` — well-formed trees over a text.
* `Node.leaves_eq` — the leaves of a node are those of its children, unless it stops the search.
* `Node.WellFormed.inOrder_leaves` — the leaves of a well-formed tree stand in order, and no two of
  them overlap.
* `Node.Throughout.of_mem_leaves` — what holds throughout a tree holds of its leaves.
-/

import Mathlib.Data.List.Chain
import MessageHarvest.Proofs.Boundary

namespace MessageHarvest.Node

/-! ### Properties of whole trees -/

/-- What is true of a node as soon as it is true of its children is true of every node. -/
@[elab_as_elim]
theorem induction_children {motive : Node → Prop} (node : Node)
    (step : ∀ node : Node, (∀ child ∈ node.children, motive child) → motive node) : motive node := by
  apply step
  intro child member
  have smaller : sizeOf child < sizeOf node := by
    have listed := List.sizeOf_lt_of_mem member
    cases node
    simp only [mk.sizeOf_spec] at listed ⊢
    omega
  exact induction_children child step
termination_by sizeOf node

/-- The property holds of a node and of every node below it. -/
inductive Throughout (property : Node → Prop) : Node → Prop
  | intro {node : Node} (here : property node)
      (below : ∀ child ∈ node.children, Throughout property child) : Throughout property node

namespace Throughout

variable {property : Node → Prop}

theorem here {node : Node} (throughout : Throughout property node) : property node := by
  cases throughout with
  | intro here _ => exact here

theorem of_mem_children {node child : Node} (throughout : Throughout property node)
    (member : child ∈ node.children) : Throughout property child := by
  cases throughout with
  | intro _ below => exact below child member

end Throughout

/-- The test holds of a node and of every node below it. -/
def all (test : Node → Bool) : Node → Bool
  | ⟨kind, isNamed, startByte, endByte, startRow, endRow, children⟩ =>
    test ⟨kind, isNamed, startByte, endByte, startRow, endRow, children⟩ && alls test children
where
  /-- The test holds throughout several trees. -/
  alls (test : Node → Bool) : List Node → Bool
    | [] => true
    | node :: rest => all test node && alls test rest

theorem all_eq (test : Node → Bool) (node : Node) :
    all test node = (test node && all.alls test node.children) := by
  cases node
  rfl

theorem alls_eq (test : Node → Bool) (nodes : List Node) :
    all.alls test nodes = nodes.all (all test) := by
  induction nodes with
  | nil => rfl
  | cons node nodes ih => rw [all.alls, List.all_cons, ih]

/-- Whether a decidable property holds throughout a tree can be tested node by node. -/
theorem throughout_iff_all (property : Node → Prop) [DecidablePred property] (node : Node) :
    Throughout property node ↔ all (fun node => decide (property node)) node = true := by
  induction node using induction_children with
  | step node ih =>
    rw [all_eq, alls_eq, Bool.and_eq_true, List.all_eq_true, decide_eq_true_iff]
    constructor
    · intro throughout
      exact ⟨throughout.here, fun child member =>
        (ih child member).mp (throughout.of_mem_children member)⟩
    · rintro ⟨here, below⟩
      exact .intro here fun child member => (ih child member).mpr (below child member)

instance (property : Node → Prop) [DecidablePred property] : DecidablePred (Throughout property) :=
  fun node => decidable_of_iff _ (throughout_iff_all property node).symm

/-! ### Well-formed trees -/

/-- The node covers a range between two boundaries of the text, and its children lie inside the
range, one behind the other. -/
structure Fits (text : String) (node : Node) : Prop where
  start_le_end : node.startByte ≤ node.endByte
  start_boundary : IsBoundary text node.startByte
  end_boundary : IsBoundary text node.endByte
  children_inside : ∀ child ∈ node.children,
    node.startByte ≤ child.startByte ∧ child.endByte ≤ node.endByte
  children_in_order : node.children.IsChain fun first second => first.endByte ≤ second.startByte

instance (text : String) : DecidablePred (Fits text) := fun node =>
  decidable_of_iff
    (node.startByte ≤ node.endByte ∧ IsBoundary text node.startByte ∧
      IsBoundary text node.endByte ∧
      (∀ child ∈ node.children,
        node.startByte ≤ child.startByte ∧ child.endByte ≤ node.endByte) ∧
      node.children.IsChain fun first second => first.endByte ≤ second.startByte)
    ⟨fun ⟨range, start, stop, inside, order⟩ => ⟨range, start, stop, inside, order⟩,
      fun ⟨range, start, stop, inside, order⟩ => ⟨range, start, stop, inside, order⟩⟩

/-- Every node of the tree fits the text. -/
def WellFormed (text : String) (root : Node) : Prop :=
  Throughout (Fits text) root

instance (text : String) : DecidablePred (WellFormed text) :=
  inferInstanceAs (DecidablePred (Throughout (Fits text)))

/-! ### Nodes in order -/

/-- The nodes follow one another from an offset on. -/
inductive InOrder : (offset : Nat) → List Node → Prop
  | nil {offset : Nat} : InOrder offset []
  | cons {offset : Nat} {node : Node} {rest : List Node} (reached : offset ≤ node.startByte)
      (range : node.startByte ≤ node.endByte) (behind : InOrder node.endByte rest) :
      InOrder offset (node :: rest)

namespace InOrder

theorem mono {first offset : Nat} {nodes : List Node} (order : InOrder offset nodes)
    (before : first ≤ offset) : InOrder first nodes := by
  cases order with
  | nil => exact .nil
  | cons reached range behind => exact .cons (Nat.le_trans before reached) range behind

/-- Nodes that stand in a chain inside a range may be put before nodes behind the range. -/
theorem chain_append {offset limit : Nat} {nodes rest : List Node} (bounded : offset ≤ limit)
    (reached : ∀ node ∈ nodes.head?, offset ≤ node.startByte)
    (ranges : ∀ node ∈ nodes, node.startByte ≤ node.endByte ∧ node.endByte ≤ limit)
    (chain : nodes.IsChain fun first second => first.endByte ≤ second.startByte)
    (behind : InOrder limit rest) : InOrder offset (nodes ++ rest) := by
  induction nodes generalizing offset with
  | nil => exact behind.mono bounded
  | cons node nodes ih =>
    obtain ⟨next, chain⟩ := List.isChain_cons.mp chain
    obtain ⟨range, inside⟩ := ranges node List.mem_cons_self
    exact .cons (reached node rfl) range
      (ih inside next (fun node member => ranges node (List.mem_cons_of_mem _ member)) chain)

end InOrder

/-- A node of a well-formed tree may be replaced by its children. -/
theorem WellFormed.inOrder_children_append {text : String} {node : Node} {rest : List Node}
    (formed : node.WellFormed text) (behind : InOrder node.endByte rest) :
    InOrder node.startByte (node.children ++ rest) := by
  have fits := formed.here
  refine .chain_append fits.start_le_end ?_ ?_ fits.children_in_order behind
  · intro child first
    exact (fits.children_inside child (List.mem_of_mem_head? first)).1
  · intro child member
    exact ⟨(formed.of_mem_children member).here.start_le_end, (fits.children_inside child member).2⟩

/-! ### Leaves -/

theorem pendingLeaves_append (first second : List Node) :
    pendingLeaves (first ++ second) = pendingLeaves first ++ pendingLeaves second := by
  fun_induction pendingLeaves first with
  | case1 => rfl
  | case2 node rest empty ih =>
    rw [List.cons_append, pendingLeaves, if_pos empty, ih]
  | case3 node rest shown stops ih =>
    rw [List.cons_append, pendingLeaves, if_neg shown, if_pos stops, ih, List.cons_append]
  | case4 node rest shown passes ih =>
    rw [List.cons_append, pendingLeaves, if_neg shown, if_neg passes, ← List.append_assoc, ih]

theorem pendingLeaves_eq_flatMap (pending : List Node) :
    pendingLeaves pending = pending.flatMap leaves := by
  induction pending with
  | nil => rw [pendingLeaves, List.flatMap_nil]
  | cons node rest ih =>
    rw [List.flatMap_cons, ← ih]
    exact pendingLeaves_append [node] rest

/-- **The leaves of a node**: none if it is empty, itself if it is atomic or has no children, and
otherwise the leaves of its children. -/
theorem leaves_eq (node : Node) :
    node.leaves =
      if node.isEmpty then []
      else if node.isAtomic || node.children.isEmpty then [node]
      else node.children.flatMap leaves := by
  rw [leaves, pendingLeaves, pendingLeaves, List.append_nil, pendingLeaves_eq_flatMap]

theorem leaves_of_children {node : Node} (shown : ¬ node.isEmpty = true)
    (plain : ¬ node.isAtomic = true) (inhabited : node.children ≠ []) :
    node.leaves = node.children.flatMap leaves := by
  rw [leaves_eq, if_neg shown, if_neg]
  rw [Bool.or_eq_true, List.isEmpty_iff]
  exact not_or.mpr ⟨plain, inhabited⟩

/-- Looking for leaves keeps the order of the nodes. -/
theorem InOrder.pendingLeaves {text : String} {offset : Nat} {pending : List Node}
    (order : InOrder offset pending) (formed : ∀ node ∈ pending, node.WellFormed text) :
    InOrder offset (pendingLeaves pending) := by
  fun_induction Node.pendingLeaves pending generalizing offset with
  | case1 => exact .nil
  | case2 node rest _ ih =>
    cases order with
    | cons reached range behind =>
      exact ih (behind.mono (Nat.le_trans reached range)) (List.forall_mem_cons.mp formed).2
  | case3 node rest _ _ ih =>
    cases order with
    | cons reached range behind =>
      exact .cons reached range (ih behind (List.forall_mem_cons.mp formed).2)
  | case4 node rest _ _ ih =>
    obtain ⟨first, others⟩ := List.forall_mem_cons.mp formed
    cases order with
    | cons reached range behind =>
      refine ih ((first.inOrder_children_append behind).mono reached) ?_
      exact List.forall_mem_append.mpr ⟨fun child => first.of_mem_children, others⟩

/-- **The leaves of a well-formed tree follow one another.** -/
theorem WellFormed.inOrder_leaves {text : String} {root : Node} (formed : root.WellFormed text) :
    InOrder 0 root.leaves :=
  InOrder.pendingLeaves (.cons (Nat.zero_le _) formed.here.start_le_end .nil)
    (List.forall_mem_singleton.mpr formed)

/-- What holds throughout pending trees holds throughout the leaves below them. -/
theorem Throughout.of_mem_pendingLeaves {property : Node → Prop} {pending : List Node}
    (throughout : ∀ node ∈ pending, Throughout property node) {leaf : Node}
    (member : leaf ∈ pendingLeaves pending) : Throughout property leaf := by
  fun_induction Node.pendingLeaves pending with
  | case1 => exact absurd member List.not_mem_nil
  | case2 node rest _ ih => exact ih (List.forall_mem_cons.mp throughout).2 member
  | case3 node rest _ _ ih =>
    obtain ⟨first, others⟩ := List.forall_mem_cons.mp throughout
    rcases List.mem_cons.mp member with rfl | member
    · exact first
    · exact ih others member
  | case4 node rest _ _ ih =>
    obtain ⟨first, others⟩ := List.forall_mem_cons.mp throughout
    exact ih (List.forall_mem_append.mpr ⟨fun child => first.of_mem_children, others⟩) member

/-- **What holds throughout a tree holds of its leaves.** -/
theorem Throughout.of_mem_leaves {property : Node → Prop} {root leaf : Node}
    (throughout : Throughout property root) (member : leaf ∈ root.leaves) : property leaf :=
  (of_mem_pendingLeaves (List.forall_mem_singleton.mpr throughout) member).here

/-- No leaf is empty. -/
theorem isEmpty_of_mem_pendingLeaves {pending : List Node} {leaf : Node}
    (member : leaf ∈ pendingLeaves pending) : leaf.isEmpty = false := by
  fun_induction Node.pendingLeaves pending with
  | case1 => exact absurd member List.not_mem_nil
  | case2 node rest _ ih => exact ih member
  | case3 node rest shown _ ih =>
    rcases List.mem_cons.mp member with rfl | member
    · exact Bool.eq_false_iff.mpr shown
    · exact ih member
  | case4 node rest _ _ ih => exact ih member

end MessageHarvest.Node
