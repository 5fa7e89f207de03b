/-
**Concrete syntax trees.**

A grammar yields a tree of nodes over the bytes of a source. A node has a kind, which is named or
anonymous, a range of bytes, and the rows in which the range starts and ends. Nothing is assumed of
the ranges: they may overlap, run backwards or leave the source.

Some named nodes are atomic: they stand for one token whatever is below them, as a string literal or
a comment does.

* `Node.leaves` — the nodes that stand for tokens, from left to right: the atomic nodes and the
  nodes without children, where neither they nor a node above them is empty or atomic.
-/

import MessageHarvest.Token

namespace MessageHarvest

/-- A node of a concrete syntax tree. Rows are counted from zero. -/
structure Node where
  kind : String
  isNamed : Bool
  startByte : Nat
  endByte : Nat
  startRow : Nat
  endRow : Nat
  children : List Node
deriving Repr

namespace Node

/-- The kinds of the atomic nodes, with the kinds of their tokens. -/
def atomicKinds : List (String × Kind) :=
  [("string", Kind.string),
   ("encapsed_string", Kind.string),
   ("integer", Kind.integer),
   ("float", Kind.float),
   ("variable_name", Kind.variableName),
   ("comment", Kind.comment),
   ("php_tag", Kind.openTag),
   ("text", Kind.inlineHtml),
   ("heredoc", Kind.heredoc),
   ("nowdoc", Kind.nowdoc)]

/-- The kinds of the named parts of a double-quoted string that embed nothing. -/
def constantParts : List String :=
  ["string_content", "string_value", "escape_sequence"]

/-- The kind that the table of atomic nodes gives to a node. -/
def atomicKind? (node : Node) : Option Kind :=
  if node.isNamed then atomicKinds.lookup node.kind else none

/-- The node stands for one token, whatever is below it. -/
def isAtomic (node : Node) : Bool :=
  node.atomicKind?.isSome

/-- The node covers no byte. -/
def isEmpty (node : Node) : Bool :=
  node.startByte = node.endByte

/-- Some named child is not a constant part of a string. -/
def isInterpolated (node : Node) : Bool :=
  node.children.any fun child => child.isNamed && !constantParts.contains child.kind

/-- The kind of the token that an atomic node stands for: a double-quoted string that embeds
expressions is not a constant one. -/
def tokenKind? (node : Node) : Option Kind :=
  node.atomicKind?.map fun kind =>
    if node.kind = "encapsed_string" ∧ node.isInterpolated then Kind.interpolatedString else kind

/-- The number of nodes of a tree. -/
def size : Node → Nat
  | ⟨_, _, _, _, _, _, children⟩ => sizes children + 1
where
  /-- The number of nodes of several trees. -/
  sizes : List Node → Nat
    | [] => 0
    | node :: rest => size node + sizes rest

@[simp]
theorem sizes_nil : size.sizes [] = 0 := rfl

@[simp]
theorem sizes_cons (node : Node) (rest : List Node) :
    size.sizes (node :: rest) = node.size + size.sizes rest := rfl

/-- A node counts for one more than its children. -/
theorem size_eq (node : Node) : node.size = size.sizes node.children + 1 := by
  cases node
  rfl

@[simp]
theorem sizes_append (first second : List Node) :
    size.sizes (first ++ second) = size.sizes first + size.sizes second := by
  induction first with
  | nil => simp
  | cons node rest ih => simp [ih, Nat.add_assoc]

/-- The nodes below a stack of pending nodes that stand for tokens, from left to right. A node that
does not stand for a token itself is replaced by its children. -/
def pendingLeaves : (pending : List Node) → List Node
  | [] => []
  | node :: rest =>
    if node.isEmpty then pendingLeaves rest
    else if node.isAtomic || node.children.isEmpty then node :: pendingLeaves rest
    else pendingLeaves (node.children ++ rest)
termination_by pending => size.sizes pending
decreasing_by
  all_goals
    simp only [sizes_cons, sizes_append, size_eq]
    omega

/-- The nodes of a tree that stand for tokens, from left to right. -/
def leaves (root : Node) : List Node :=
  pendingLeaves [root]

end Node

end MessageHarvest
