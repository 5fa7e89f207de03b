/-
**What is below an atomic node stays there.**

Nothing inside a string, a comment or a heredoc is code. A tokeniser stops at atomic nodes and passes
over empty ones, so that brackets and quotes below them never become tokens, and whatever stands
there may be exchanged for anything else. Only one thing shows through: whether a double-quoted
string embeds an expression.

* `Node.at?`, `Node.above`, `Node.replaceBelow` — positions in a tree, the nodes above them, and an
  exchange of what is below them.
* `Node.exposes_of_mem_leaves` — no atomic node stands above a leaf.
* `Node.map_appearance_leaves_replaceBelow` — what the leaves show after an exchange.
* `sealed_nodes_hold_no_code` — where punctuation and strings come from, and what may be exchanged.
-/

import MessageHarvest.Proofs.TreeShape

namespace MessageHarvest

theorem exists_of_bind_eq_ok {Error First Second : Type} {first : Except Error First}
    {next : First → Except Error Second} {value : Second} (bound : (first >>= next) = .ok value) :
    ∃ middle, first = .ok middle ∧ next middle = .ok value := by
  cases first with
  | error error => cases bound
  | ok middle => exact ⟨middle, rfl, bound⟩

namespace Node

/-! ### Positions -/

/-- The node that is reached by going down to the children of the given indices. -/
def at? : Node → (path : List Nat) → Option Node
  | node, [] => some node
  | node, index :: path => node.children[index]?.bind fun child => child.at? path

/-- The nodes above a position, from the first one down. -/
def above : Node → (path : List Nat) → List Node
  | _, [] => []
  | node, index :: path => node :: (node.children[index]?.elim [] fun child => child.above path)

/-- The tree in which the node at a position has other children. -/
def replaceBelow (children : List Node) : (path : List Nat) → Node → Node
  | [], node => { node with children }
  | index :: path, node =>
    { node with children := node.children.modify index (replaceBelow children path) }

/-- The node stands somewhere in the tree, and no node above it is atomic. -/
def Exposes (root node : Node) : Prop :=
  ∃ path, root.at? path = some node ∧ ∀ outer ∈ root.above path, outer.isAtomic = false

/-- Some named node among the parts of a string is not a constant part. -/
def EmbedsExpression (parts : List Node) : Prop :=
  ∃ part ∈ parts, part.isNamed = true ∧ part.kind ∉ constantParts

instance : DecidablePred EmbedsExpression := fun parts =>
  inferInstanceAs (Decidable (∃ part ∈ parts, _))

/-- The children of the node may be exchanged: it is empty, or it is atomic and, if it is a
double-quoted string, embeds expressions before and after the exchange or neither time. -/
def Conceals (node : Node) (children : List Node) : Prop :=
  node.isEmpty = true ∨ node.isAtomic = true ∧
    (node.kind = "encapsed_string" → (EmbedsExpression children ↔ EmbedsExpression node.children))

instance (node : Node) : DecidablePred node.Conceals := fun _ =>
  inferInstanceAs (Decidable (_ ∨ _))

/-! ### Where leaves stand -/

/-- **A leaf stands where no atomic node is above it.** -/
theorem exposes_of_mem_leaves {root leaf : Node} (member : leaf ∈ root.leaves) : root.Exposes leaf := by
  induction root using induction_children with
  | step root ih =>
    rw [leaves_eq] at member
    split at member
    · exact absurd member List.not_mem_nil
    · split at member
      · obtain rfl := List.mem_singleton.mp member
        exact ⟨[], rfl, List.forall_mem_nil _⟩
      · rename_i passes
        have plainRoot := (Bool.or_eq_false_iff.mp (Bool.eq_false_iff.mpr passes)).1
        obtain ⟨child, inside, member⟩ := List.mem_flatMap.mp member
        obtain ⟨path, found, plain⟩ := ih child inside member
        obtain ⟨index, here⟩ := List.mem_iff_getElem?.mp inside
        refine ⟨index :: path, ?_, ?_⟩
        · rw [at?, here]
          exact found
        · rw [above, here]
          exact List.forall_mem_cons.mpr ⟨plainRoot, plain⟩

/-! ### Tokens of leaves -/

/-- A token stands for a leaf or for the blanks before one. -/
theorem mem_tokensFrom {bytes : ByteArray} {offset : Nat} {line : Int} {leaves : List Node}
    {tokens : List Token} (read : tokensFrom bytes offset line leaves = .ok tokens)
    {token : Token} (member : token ∈ tokens) :
    (∃ text line, token = .lexeme Kind.whitespace text line) ∨
      ∃ leaf ∈ leaves, leaf.token bytes = .ok token := by
  have blank {first last : Nat} {line : Int} {gap : List Token}
      (read : blanks bytes first last line = .ok gap) (member : token ∈ gap) :
      ∃ text line, token = .lexeme Kind.whitespace text line := by
    unfold blanks at read
    split at read
    · obtain ⟨text, _, read⟩ := exists_of_bind_eq_ok read
      obtain rfl := Except.ok.inj read
      exact ⟨text, line, List.mem_singleton.mp member⟩
    · obtain rfl := Except.ok.inj read
      exact absurd member List.not_mem_nil
  induction leaves generalizing offset line tokens with
  | nil => exact Or.inl (blank read member)
  | cons leaf leaves ih =>
    obtain ⟨gap, gapRead, read⟩ := exists_of_bind_eq_ok read
    obtain ⟨first, firstRead, read⟩ := exists_of_bind_eq_ok read
    obtain ⟨others, othersRead, read⟩ := exists_of_bind_eq_ok read
    obtain rfl := Except.ok.inj read
    rcases List.mem_append.mp member with member | member
    · exact Or.inl (blank gapRead member)
    · rcases List.mem_cons.mp member with rfl | member
      · exact Or.inr ⟨leaf, List.mem_cons_self, firstRead⟩
      · rcases ih othersRead member with blanks | ⟨other, inside, same⟩
        · exact Or.inl blanks
        · exact Or.inr ⟨other, List.mem_cons_of_mem _ inside, same⟩

/-- **Where a token comes from**: it is made of blanks, or of the text of an exposed node. -/
theorem exists_exposed_of_mem_tokens {bytes : ByteArray} {root : Node} {tokens : List Token}
    (read : root.tokens bytes = .ok tokens) {token : Token} (member : token ∈ tokens) :
    (∃ text line, token = .lexeme Kind.whitespace text line) ∨
      ∃ node body, root.Exposes node ∧ slice bytes node.startByte node.endByte = some body ∧
        node.tokenOfText body = token := by
  refine (mem_tokensFrom read member).imp_right ?_
  rintro ⟨leaf, inside, same⟩
  obtain ⟨body, spelled, same⟩ := exists_of_bind_eq_ok same
  exact ⟨leaf, body, exposes_of_mem_leaves inside, decode_eq_ok_iff.mp spelled, Except.ok.inj same⟩

/-- Punctuation is an anonymous leaf of one character. -/
theorem of_tokenOfText_eq_punctuation {node : Node} {text body : String}
    (same : node.tokenOfText text = .punctuation body) :
    node.isNamed = false ∧ text = body ∧ body.length = 1 := by
  unfold tokenOfText at same
  split_ifs at same with named single
  · obtain rfl := Token.punctuation.inj same
    exact ⟨Bool.eq_false_iff.mpr named, rfl, single⟩

theorem isInterpolated_iff (node : Node) :
    node.isInterpolated = true ↔ EmbedsExpression node.children := by
  simp [isInterpolated, EmbedsExpression]

/-- The kinds that the table gives to constant strings. -/
theorem kind_of_lookup_string {kind : String} (found : atomicKinds.lookup kind = some Kind.string) :
    kind = "string" ∨ kind = "encapsed_string" := by
  have entries : ∀ entry ∈ atomicKinds, entry.2 = Kind.string →
      entry.1 = "string" ∨ entry.1 = "encapsed_string" := by
    decide
  obtain ⟨before, after, split, _⟩ := List.lookup_eq_some_iff.mp found
  exact entries (kind, Kind.string) (by rw [split]; simp) rfl

/-- A named node is taken for a constant string if it is one: with single quotes, or with double quotes
and nothing embedded. -/
theorem kind_of_tokenKind?_string {node : Node} (named : node.isNamed = true)
    (isString : node.tokenKind?.getD ⟨node.kind⟩ = Kind.string) :
    node.kind = "string" ∨ node.kind = "encapsed_string" ∧ ¬ EmbedsExpression node.children := by
  unfold tokenKind? atomicKind? at isString
  rw [if_pos named] at isString
  cases found : atomicKinds.lookup node.kind with
  | none =>
    -- The kind of the node itself could be the name of strings only outside the table, but it is in it.
    rw [found] at isString
    have name : node.kind = "string" := congrArg Kind.name isString
    rw [name] at found
    exact absurd found (by decide)
  | some kind =>
    rw [found, Option.map_some, Option.getD_some] at isString
    split at isString
    · exact absurd isString (by decide)
    · rename_i constant
      rcases kind_of_lookup_string (isString ▸ found) with single | double
      · exact Or.inl single
      · refine Or.inr ⟨double, fun embeds => constant ⟨double, ?_⟩⟩
        exact (isInterpolated_iff node).mpr embeds

/-- A constant string is a named string node, and one with double quotes embeds nothing. -/
theorem of_tokenOfText_eq_string {node : Node} {text body : String} {line : Int}
    (same : node.tokenOfText text = .lexeme Kind.string body line) :
    node.isNamed = true ∧ text = body ∧ (node.kind = "string" ∨
      node.kind = "encapsed_string" ∧ ¬ EmbedsExpression node.children) := by
  unfold tokenOfText at same
  split_ifs at same with named single word
  · obtain ⟨isString, rfl, _⟩ := Token.lexeme.inj same
    exact ⟨named, rfl, kind_of_tokenKind?_string named isString⟩
  · exact absurd (Token.lexeme.inj same).1 (by decide)
  · exact absurd (Token.lexeme.inj same).1 (by decide)

/-! ### Exchanging what is below a node -/

/-- What tokens take from a leaf: where it starts and ends, and the token that it makes of a text. -/
structure Appearance where
  startByte : Nat
  endByte : Nat
  endRow : Nat
  token : String → Token

/-- What tokens take from a node. -/
def appearance (node : Node) : Appearance where
  startByte := node.startByte
  endByte := node.endByte
  endRow := node.endRow
  token := node.tokenOfText

/-- Tokens take nothing else from the leaves. -/
theorem tokensFrom_congr {first second : List Node}
    (same : first.map appearance = second.map appearance) (bytes : ByteArray) (offset : Nat)
    (line : Int) : tokensFrom bytes offset line first = tokensFrom bytes offset line second := by
  induction first generalizing second offset line with
  | nil =>
    rw [List.map_eq_nil_iff.mp same.symm]
  | cons node first ih =>
    cases second with
    | nil => cases same
    | cons other second =>
      rw [List.map_cons, List.map_cons] at same
      obtain ⟨alike, others⟩ := List.cons.inj same
      obtain ⟨start, stop, row, token⟩ := Appearance.mk.inj alike
      rw [tokensFrom, tokensFrom, Node.token, Node.token, start, stop, row, token, ih others]

/-- Other children leave the appearance of a node as it is, unless it is a double-quoted string and
they embed expressions where the old ones did not, or the other way round. -/
theorem appearance_withChildren {node : Node} {children : List Node}
    (kept : node.kind = "encapsed_string" →
      (EmbedsExpression children ↔ EmbedsExpression node.children)) :
    appearance { node with children } = node.appearance := by
  have kind : tokenKind? { node with children } = node.tokenKind? := by
    show node.atomicKind?.map _ = node.atomicKind?.map _
    congr 1
    funext kind
    by_cases double : node.kind = "encapsed_string"
    · have same : isInterpolated { node with children } = node.isInterpolated := by
        rw [Bool.eq_iff_iff, isInterpolated_iff, isInterpolated_iff]
        exact kept double
      rw [same]
    · rw [if_neg fun both => double both.1, if_neg fun both => double both.1]
  have token : tokenOfText { node with children } = node.tokenOfText := by
    funext text
    unfold tokenOfText
    rw [kind]
  exact congrArg (Appearance.mk node.startByte node.endByte node.endRow) token

/-- **A node that conceals its children shows the same with others.** -/
theorem Conceals.map_appearance_leaves {node : Node} {children : List Node}
    (conceals : node.Conceals children) :
    (leaves { node with children }).map appearance = node.leaves.map appearance := by
  have sameEmpty : isEmpty { node with children } = node.isEmpty := rfl
  have sameAtomic : isAtomic { node with children } = node.isAtomic := rfl
  rw [leaves_eq, leaves_eq node, sameEmpty, sameAtomic]
  by_cases empty : node.isEmpty = true
  · rw [if_pos empty, if_pos empty]
  · obtain ⟨atomic, kept⟩ := conceals.resolve_left empty
    rw [if_neg empty, if_neg empty, atomic, Bool.true_or, Bool.true_or, if_pos rfl, if_pos rfl,
      List.map_singleton, List.map_singleton, appearance_withChildren kept]

theorem kind_replaceBelow (children : List Node) (path : List Nat) (node : Node) :
    (replaceBelow children path node).kind = node.kind := by
  cases path <;> rfl

theorem isNamed_replaceBelow (children : List Node) (path : List Nat) (node : Node) :
    (replaceBelow children path node).isNamed = node.isNamed := by
  cases path <;> rfl

/-- An exchange further down does not change what a string embeds. -/
theorem embedsExpression_exchange {left right : List Node} {child other : Node}
    (kind : other.kind = child.kind) (named : other.isNamed = child.isNamed) :
    EmbedsExpression (left ++ other :: right) ↔ EmbedsExpression (left ++ child :: right) := by
  simp only [EmbedsExpression, List.mem_append, List.mem_cons, or_and_right, exists_or,
    exists_eq_left, kind, named]

/-- **What the leaves of a tree show after an exchange below a node that conceals it.** -/
theorem map_appearance_leaves_replaceBelow {children : List Node} {path : List Nat}
    {root node : Node} (found : root.at? path = some node) (conceals : node.Conceals children) :
    (replaceBelow children path root).leaves.map appearance = root.leaves.map appearance := by
  induction path generalizing root with
  | nil =>
    obtain rfl := Option.some.inj found
    exact conceals.map_appearance_leaves
  | cons index path ih =>
    obtain ⟨child, here, found⟩ := Option.bind_eq_some_iff.mp found
    obtain ⟨inside, _⟩ := List.getElem?_eq_some_iff.mp here
    obtain ⟨left, first, right, split, rfl, modified⟩ :=
      List.exists_of_modify (replaceBelow children path) inside
    obtain rfl : first = child := by
      rw [split, List.getElem?_append_right (Nat.le_refl _), Nat.sub_self] at here
      exact Option.some.inj here
    by_cases stops : root.isEmpty = true ∨ root.isAtomic = true
    · -- The root conceals its children too, and they have kept their kinds.
      have conceals : root.Conceals (root.children.modify left.length (replaceBelow children path)) := by
        refine stops.imp_right fun atomic => ⟨atomic, fun _ => ?_⟩
        rw [modified, split]
        exact embedsExpression_exchange (kind_replaceBelow children path first)
          (isNamed_replaceBelow children path first)
      exact conceals.map_appearance_leaves
    · obtain ⟨shown, plain⟩ := not_or.mp stops
      have inhabited : root.children ≠ [] := by
        rw [split]
        simp
      have exchanged : (replaceBelow children (left.length :: path) root).leaves =
          (left ++ replaceBelow children path first :: right).flatMap leaves := by
        rw [replaceBelow, modified]
        exact leaves_of_children shown plain (by simp)
      rw [exchanged, leaves_of_children shown plain inhabited, split]
      simp only [List.flatMap_append, List.flatMap_cons, List.map_append, ih found]

end Node

/-! ### Tokenising -/

/-- What tokenising a source yields, given the tree that a grammar has for it. -/
def Parse.tokenise (parse : Parse) (source : SourceText) :
    Except (TokeniseError Empty) (List Token) :=
  (Grammar.tokeniser (fun _ => .ok parse) source).value

/-- Only the leaves of the tree matter. -/
theorem Parse.tokenise_eq (parse : Parse) (source : SourceText) :
    parse.tokenise source =
      match source.encode with
      | .error run => .error (.unencodable run)
      | .ok text => (parse.root.tokens text.toUTF8).mapError .undecodable := by
  unfold tokenise Grammar.tokeniser
  cases source.encode with
  | error run => rfl
  | ok text =>
    dsimp only
    cases parse.hasErrors <;> rfl

theorem Parse.exists_of_tokenise {parse : Parse} {source : SourceText} {tokens : List Token}
    (read : parse.tokenise source = .ok tokens) :
    ∃ text, source.encode = .ok text ∧ parse.root.tokens text.toUTF8 = .ok tokens := by
  rw [tokenise_eq] at read
  cases encoded : source.encode with
  | error run =>
    rw [encoded] at read
    cases read
  | ok text =>
    rw [encoded] at read
    dsimp only at read
    cases found : parse.root.tokens text.toUTF8 with
    | error range =>
      rw [found] at read
      cases read
    | ok others =>
      rw [found] at read
      obtain rfl := Except.ok.inj read
      exact ⟨text, rfl, found⟩

/-- **Nothing below an atomic or empty node acts as code.** Punctuation spells an anonymous node of one
character with no atomic node above it. A constant string spells a string node, and one with double
quotes has constant parts only. The children of an atomic or empty node may be exchanged for any
others without an effect on the tokens or the error, as long as a double-quoted string still embeds
an expression or still embeds none. -/
theorem sealed_nodes_hold_no_code (source : SourceText) (parse : Parse) :
    (∀ tokens, parse.tokenise source = .ok tokens →
      ∃ text, source.encode = .ok text ∧
        (∀ body, .punctuation body ∈ tokens → ∃ node, parse.root.Exposes node ∧
          node.isNamed = false ∧ slice text.toUTF8 node.startByte node.endByte = some body ∧
          body.length = 1) ∧
        ∀ body line, .lexeme Kind.string body line ∈ tokens → ∃ node, parse.root.Exposes node ∧
          node.isNamed = true ∧ slice text.toUTF8 node.startByte node.endByte = some body ∧
          (node.kind = "string" ∨ node.kind = "encapsed_string" ∧
            ∀ part ∈ node.children, part.isNamed = true → part.kind ∈ Node.constantParts)) ∧
      ∀ path node children hasErrors, parse.root.at? path = some node → node.Conceals children →
        Parse.tokenise { root := parse.root.replaceBelow children path, hasErrors } source =
          parse.tokenise source := by
  constructor
  · intro tokens read
    obtain ⟨text, encoded, read⟩ := Parse.exists_of_tokenise read
    refine ⟨text, encoded, fun body member => ?_, fun body line member => ?_⟩
    · rcases Node.exists_exposed_of_mem_tokens read member with
        ⟨_, _, blank⟩ | ⟨node, _, exposes, spelled, same⟩
      · cases blank
      · obtain ⟨anonymous, rfl, single⟩ := Node.of_tokenOfText_eq_punctuation same
        exact ⟨node, exposes, anonymous, spelled, single⟩
    · rcases Node.exists_exposed_of_mem_tokens read member with
        ⟨_, _, blank⟩ | ⟨node, _, exposes, spelled, same⟩
      · exact absurd (Token.lexeme.inj blank).1 (by decide)
      · obtain ⟨named, rfl, single | ⟨double, constant⟩⟩ := Node.of_tokenOfText_eq_string same
        · exact ⟨node, exposes, named, spelled, Or.inl single⟩
        · refine ⟨node, exposes, named, spelled, Or.inr ⟨double, fun part inside partNamed => ?_⟩⟩
          by_contra embedded
          exact constant ⟨part, inside, partNamed, embedded⟩
  · intro path node children hasErrors found conceals
    have unchanged (bytes : ByteArray) :
        (parse.root.replaceBelow children path).tokens bytes = parse.root.tokens bytes :=
      Node.tokensFrom_congr (Node.map_appearance_leaves_replaceBelow found conceals) bytes 0 1
    rw [Parse.tokenise_eq, Parse.tokenise_eq]
    simp only [unchanged]

namespace QuotedBracket

/-- A call with a bracket inside its first string and a variable inside its second. -/
def text : String := "t(\"(\",\"$x\")"

/-- The string that holds the bracket. -/
def quoted : Node :=
  ⟨"encapsed_string", true, 2, 5, 0, 0,
    [⟨"\"", false, 2, 3, 0, 0, []⟩, ⟨"string_content", true, 3, 4, 0, 0, []⟩,
     ⟨"\"", false, 4, 5, 0, 0, []⟩]⟩

/-- A tree over the text. Below an empty node stands one that covers the last bracket again. -/
def parse : Parse where
  hasErrors := true
  root :=
    ⟨"call", true, 0, 11, 0, 0,
      [⟨"name", true, 0, 1, 0, 0, []⟩,
       ⟨"arguments", true, 1, 11, 0, 0,
        [⟨"(", false, 1, 2, 0, 0, []⟩,
         quoted,
         ⟨",", false, 5, 6, 0, 0, []⟩,
         ⟨"encapsed_string", true, 6, 10, 0, 0, [⟨"variable_name", true, 7, 9, 0, 0, []⟩]⟩,
         ⟨"missing", true, 10, 10, 0, 0, [⟨")", false, 10, 11, 0, 0, []⟩]⟩,
         ⟨")", false, 10, 11, 0, 0, []⟩]⟩]⟩

/-- Children for the string that holds the bracket, which look like code. -/
def bare : List Node :=
  [⟨"(", false, 3, 4, 0, 0, []⟩, ⟨"string_value", true, 0, 2, 0, 0, [⟨")", false, 10, 11, 0, 0, []⟩]⟩]

/-- The tokens of the text. -/
def tokens : List Token :=
  [.lexeme ⟨"name"⟩ "t" 1, Token.openParen, .lexeme Kind.string "\"(\"" 1, Token.comma,
    .lexeme Kind.interpolatedString "\"$x\"" 1, Token.closeParen]

end QuotedBracket

/-- Neither the bracket inside the string nor the one below the empty node becomes a token. -/
theorem quotedBracket_sealed :
    QuotedBracket.parse.tokenise (SourceText.ofString QuotedBracket.text) = .ok QuotedBracket.tokens ∧
      QuotedBracket.parse.root.at? [1, 1] = some QuotedBracket.quoted ∧
      QuotedBracket.quoted.Conceals QuotedBracket.bare ∧
      (∃ node, QuotedBracket.parse.root.Exposes node ∧ node.isNamed = false ∧
        slice QuotedBracket.text.toUTF8 node.startByte node.endByte = some ")") ∧
      Parse.tokenise
          { root := QuotedBracket.parse.root.replaceBelow QuotedBracket.bare [1, 1],
            hasErrors := false }
          (SourceText.ofString QuotedBracket.text) = .ok QuotedBracket.tokens := by
  have read : QuotedBracket.parse.tokenise (SourceText.ofString QuotedBracket.text) =
      .ok QuotedBracket.tokens := by
    decide +kernel
  have found : QuotedBracket.parse.root.at? [1, 1] = some QuotedBracket.quoted := rfl
  have conceals : QuotedBracket.quoted.Conceals QuotedBracket.bare := by decide +kernel
  obtain ⟨origins, exchange⟩ :=
    sealed_nodes_hold_no_code (SourceText.ofString QuotedBracket.text) QuotedBracket.parse
  obtain ⟨text, encoded, punctuation, _⟩ := origins _ read
  rw [SourceText.encode_ofString] at encoded
  obtain rfl := Except.ok.inj encoded
  obtain ⟨node, exposes, anonymous, spelled, _⟩ := punctuation ")" (by decide)
  exact ⟨read, found, conceals, ⟨node, exposes, anonymous, spelled⟩,
    (exchange [1, 1] _ _ false found conceals).trans read⟩

end MessageHarvest
