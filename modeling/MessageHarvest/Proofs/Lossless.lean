/-
**Tokens lose nothing.**

The leaves of a well-formed tree and the gaps between them tile the text of the source: each token
spells the piece of text that its leaf or its gap covers, no token is empty, and the pieces together
are the text.

* `Tiling` — how leaves and gaps tile the rest of a text, and the tokens that come of it.
* `Node.WellFormed.exists_tiling` — the tokens of a well-formed tree exist and come of a tiling.
* `Token.existsUnique_covers` — every character of what tokens spell belongs to one token.
* `tokeniser_lossless` — tokenising succeeds on every well-formed tree and loses nothing.
-/

import MessageHarvest.Proofs.TreeShape

namespace MessageHarvest

/-! ### Spelling -/

namespace Token

@[simp]
theorem source_nil : source [] = "" := rfl

@[simp]
theorem source_cons (token : Token) (tokens : List Token) :
    source (token :: tokens) = token.text ++ source tokens := by
  rw [source, List.map_cons, String.join_cons, source]

@[simp]
theorem source_append (first second : List Token) :
    source (first ++ second) = source first ++ source second := by
  rw [source, List.map_append, String.join_append, source, source]

/-- The token at an index spells the character at a position of what all tokens spell. -/
def Covers (tokens : List Token) (index position : Nat) : Prop :=
  ∃ token, tokens[index]? = some token ∧ (source (tokens.take index)).length ≤ position ∧
    position < (source (tokens.take index)).length + token.text.length

theorem covers_cons_zero {token : Token} {tokens : List Token} {position : Nat} :
    Covers (token :: tokens) 0 position ↔ position < token.text.length := by
  simp [Covers]

theorem covers_cons_succ {token : Token} {tokens : List Token} {index position : Nat} :
    Covers (token :: tokens) (index + 1) position ↔
      token.text.length ≤ position ∧ Covers tokens index (position - token.text.length) := by
  simp only [Covers, List.getElem?_cons_succ, List.take_succ_cons, source_cons, String.length_append]
  constructor
  · rintro ⟨covering, found, after, before⟩
    exact ⟨by omega, covering, found, by omega, by omega⟩
  · rintro ⟨behind, covering, found, after, before⟩
    exact ⟨covering, found, by omega, by omega⟩

/-- **Every character that tokens spell belongs to exactly one of them.** -/
theorem existsUnique_covers {tokens : List Token} {position : Nat}
    (inside : position < (source tokens).length) : ∃! index, Covers tokens index position := by
  induction tokens generalizing position with
  | nil => exact absurd inside (Nat.not_lt_zero _)
  | cons token tokens ih =>
    by_cases first : position < token.text.length
    · refine ⟨0, covers_cons_zero.mpr first, fun index covers => ?_⟩
      cases index with
      | zero => rfl
      | succ index => exact absurd first (Nat.not_lt.mpr (covers_cons_succ.mp covers).1)
    · rw [source_cons, String.length_append] at inside
      have behind : position - token.text.length < (source tokens).length := by omega
      obtain ⟨index, covers, unique⟩ := ih behind
      refine ⟨index + 1, covers_cons_succ.mpr ⟨Nat.not_lt.mp first, covers⟩, fun other covers => ?_⟩
      cases other with
      | zero => exact absurd (covers_cons_zero.mp covers) first
      | succ other => rw [unique other (covers_cons_succ.mp covers).2]

end Token

/-! ### Tiling -/

/-- The blanks that stand for the text of a gap, if there is any. -/
def gapTokens (gap : String) (line : Int) : List Token :=
  if gap = "" then [] else [.lexeme Kind.whitespace gap line]

@[simp]
theorem source_gapTokens (gap : String) (line : Int) : Token.source (gapTokens gap line) = gap := by
  unfold gapTokens
  split
  · next empty => exact empty.symm
  · simp [Token.text]

@[simp]
theorem Node.text_tokenOfText (node : Node) (body : String) :
    (node.tokenOfText body).text = body := by
  unfold Node.tokenOfText
  split_ifs <;> rfl

/-- Behind a text and from a line on, leaves and the gaps between them tile the rest of a text, and
the tokens stand for the tiles: the gap before a leaf, its body, and so on up to the last gap. -/
inductive Tiling : (before : String) → (line : Int) → List Node → (rest : String) →
    List Token → Prop
  | last {before : String} {line : Int} {gap : String} :
      Tiling before line [] gap (gapTokens gap line)
  | leaf {before : String} {line : Int} {node : Node} {leaves : List Node}
      {gap body rest : String} {tokens : List Token}
      (start : (before ++ gap).utf8ByteSize = node.startByte)
      (stop : (before ++ gap ++ body).utf8ByteSize = node.endByte) (shown : body ≠ "")
      (behind : Tiling (before ++ gap ++ body) (node.endRow + 1) leaves rest tokens) :
      Tiling before line (node :: leaves) (gap ++ (body ++ rest))
        (gapTokens gap line ++ node.tokenOfText body :: tokens)

namespace Tiling

variable {before rest : String} {line : Int} {leaves : List Node} {tokens : List Token}

/-- The tokens of a tiling spell what is tiled. -/
theorem source_eq (tiling : Tiling before line leaves rest tokens) :
    Token.source tokens = rest := by
  induction tiling with
  | last => exact source_gapTokens _ _
  | leaf _ _ _ _ ih =>
    rw [Token.source_append, source_gapTokens, Token.source_cons, Node.text_tokenOfText, ih]

/-- No token of a tiling is empty. -/
theorem text_ne_empty (tiling : Tiling before line leaves rest tokens) {token : Token}
    (member : token ∈ tokens) : token.text ≠ "" := by
  have gaps {gap : String} {line : Int} (member : token ∈ gapTokens gap line) : token.text ≠ "" := by
    unfold gapTokens at member
    split at member
    · exact absurd member List.not_mem_nil
    · next shown => rwa [List.mem_singleton.mp member]
  induction tiling with
  | last => exact gaps member
  | leaf _ _ shown _ ih =>
    rcases List.mem_append.mp member with member | member
    · exact gaps member
    · rcases List.mem_cons.mp member with rfl | member
      · rwa [Node.text_tokenOfText]
      · exact ih member

end Tiling

/-! ### The tokens of a tree -/

namespace Node

theorem blanks_middle (before gap after : String) (line : Int) :
    blanks (before ++ gap ++ after).toUTF8 before.utf8ByteSize (before ++ gap).utf8ByteSize line =
      .ok (gapTokens gap line) := by
  by_cases empty : gap = ""
  · rw [blanks, if_neg (by simp [empty]), gapTokens, if_pos empty]
    rfl
  · have positive : gap.utf8ByteSize ≠ 0 := fun zero =>
      empty (String.utf8ByteSize_eq_zero_iff.mp zero)
    have range : before.utf8ByteSize < (before ++ gap).utf8ByteSize := by
      rw [String.utf8ByteSize_append]
      omega
    rw [blanks, if_pos range, decode_middle, gapTokens, if_neg empty]
    rfl

/-- **What one leaf adds.** A leaf that does not start before the end of a part of the text splits the
rest of the text into a gap, its body and what follows, and turns the first two into tokens. -/
theorem tokensFrom_cons {before rest : String} {node : Node} (fits : node.Fits (before ++ rest))
    (reached : before.utf8ByteSize ≤ node.startByte) (shown : node.isEmpty = false) (line : Int)
    (leaves : List Node) :
    ∃ gap body after, rest = gap ++ (body ++ after) ∧
      (before ++ gap).utf8ByteSize = node.startByte ∧
      (before ++ gap ++ body).utf8ByteSize = node.endByte ∧ body ≠ "" ∧
      tokensFrom (before ++ rest).toUTF8 before.utf8ByteSize line (node :: leaves) =
        (tokensFrom (before ++ rest).toUTF8 node.endByte (node.endRow + 1) leaves).map fun tokens =>
          gapTokens gap line ++ node.tokenOfText body :: tokens := by
  obtain ⟨gap, others, rfl, start⟩ := fits.start_boundary.exists_middle reached
  have boundary := fits.end_boundary
  rw [← String.append_assoc] at boundary
  obtain ⟨body, after, rfl, stop⟩ := boundary.exists_middle (start ▸ fits.start_le_end)
  refine ⟨gap, body, after, rfl, start, stop, ?_, ?_⟩
  · rintro rfl
    rw [String.append_empty, start] at stop
    simp [isEmpty, stop] at shown
  · have gapRead : blanks (before ++ (gap ++ (body ++ after))).toUTF8 before.utf8ByteSize
        node.startByte line = .ok (gapTokens gap line) := by
      rw [← start, ← String.append_assoc, blanks_middle]
    have bodyRead : node.token (before ++ (gap ++ (body ++ after))).toUTF8 =
        .ok (node.tokenOfText body) := by
      rw [token, ← start, ← stop, ← String.append_assoc, ← String.append_assoc, decode_middle]
      rfl
    rw [tokensFrom, gapRead, bodyRead]
    cases tokensFrom (before ++ (gap ++ (body ++ after))).toUTF8 node.endByte (node.endRow + 1) leaves
      <;> rfl

/-- **Leaves in order tile the rest of a text.** -/
theorem InOrder.exists_tiling {before rest : String} {leaves : List Node}
    (order : InOrder before.utf8ByteSize leaves)
    (fits : ∀ leaf ∈ leaves, leaf.Fits (before ++ rest))
    (shown : ∀ leaf ∈ leaves, leaf.isEmpty = false) (line : Int) :
    ∃ tokens, tokensFrom (before ++ rest).toUTF8 before.utf8ByteSize line leaves = .ok tokens ∧
      Tiling before line leaves rest tokens := by
  induction leaves generalizing before rest line with
  | nil =>
    have whole := blanks_middle before rest "" line
    rw [String.append_empty] at whole
    exact ⟨_, whole, .last⟩
  | cons node leaves ih =>
    obtain ⟨fit, fits⟩ := List.forall_mem_cons.mp fits
    obtain ⟨visible, shown⟩ := List.forall_mem_cons.mp shown
    cases order with
    | cons reached _ behind =>
      obtain ⟨gap, body, after, rfl, start, stop, filled, step⟩ :=
        tokensFrom_cons fit reached visible line leaves
      have same : before ++ (gap ++ (body ++ after)) = before ++ gap ++ body ++ after := by
        rw [String.append_assoc, String.append_assoc]
      rw [same] at step fits ⊢
      rw [← stop] at behind
      obtain ⟨tokens, read, tiling⟩ := ih behind fits shown (node.endRow + 1)
      refine ⟨_, ?_, .leaf start stop filled tiling⟩
      rw [step, ← stop, read]
      rfl

/-- **The tokens of a well-formed tree come of a tiling of the text.** -/
theorem WellFormed.exists_tiling {text : String} {root : Node} (formed : root.WellFormed text) :
    ∃ tokens, root.tokens text.toUTF8 = .ok tokens ∧ Tiling "" 1 root.leaves text tokens := by
  have fits (leaf : Node) (member : leaf ∈ root.leaves) : leaf.Fits ("" ++ text) := by
    rw [String.empty_append]
    exact formed.of_mem_leaves member
  have order : InOrder "".utf8ByteSize root.leaves := formed.inOrder_leaves
  have tiled := order.exists_tiling fits (fun _ member => isEmpty_of_mem_pendingLeaves member) 1
  rwa [String.empty_append] at tiled

end Node

/-! ### Tokenising -/

theorem SourceText.ofString_injective {first second : String}
    (same : ofString first = ofString second) : first = second :=
  Except.ok.inj (by rw [← encode_ofString, same, encode_ofString])

/-- Source text without surrogates is a text. -/
theorem SourceText.exists_eq_ofString {source : SourceText}
    (scalar : ∀ point ∈ source, point.isSurrogate = false) : ∃ text, source = ofString text := by
  induction source with
  | nil => exact ⟨"", rfl⟩
  | cons point source ih =>
    obtain ⟨first, others⟩ := List.forall_mem_cons.mp scalar
    obtain ⟨text, rfl⟩ := ih others
    cases point with
    | character value =>
      exact ⟨String.singleton value ++ text, by simp [ofString]⟩
    | surrogate offset => cases first

/-- On a text with a well-formed tree the tokens come of a tiling. -/
theorem Grammar.exists_tiling {Error : Type} {grammar : Grammar Error} {text : String} {parse : Parse}
    (parsed : grammar text = .ok parse) (formed : parse.root.WellFormed text) :
    ∃ tokens, (grammar.tokeniser (SourceText.ofString text)).value = .ok tokens ∧
      Tiling "" 1 parse.root.leaves text tokens := by
  obtain ⟨tokens, read, tiling⟩ := formed.exists_tiling
  refine ⟨tokens, ?_, tiling⟩
  simp only [tokeniser, SourceText.encode_ofString, parsed, read]
  cases parse.hasErrors <;> rfl

/-- **Tokenising loses nothing.** Every source without surrogates is the code points of a text, and
over every well-formed tree that the grammar gives for the text, tokenising succeeds, no token is
empty, the tokens spell the text, and every code point belongs to exactly one token. -/
theorem tokeniser_lossless {Error : Type} (grammar : Grammar Error) (source : SourceText)
    (scalar : ∀ point ∈ source, point.isSurrogate = false) :
    ∃ text, source = SourceText.ofString text ∧
      ∀ parse, grammar text = .ok parse → parse.root.WellFormed text →
        ∃ tokens, (grammar.tokeniser source).value = .ok tokens ∧
          (∀ token ∈ tokens, token.text ≠ "") ∧ Token.source tokens = text ∧
          ∀ position < source.length, ∃! index, Token.Covers tokens index position := by
  obtain ⟨text, rfl⟩ := SourceText.exists_eq_ofString scalar
  refine ⟨text, rfl, fun parse parsed formed => ?_⟩
  obtain ⟨tokens, read, tiling⟩ := Grammar.exists_tiling parsed formed
  refine ⟨tokens, read, fun token => tiling.text_ne_empty, tiling.source_eq, ?_⟩
  intro position inside
  apply Token.existsUnique_covers
  rwa [SourceText.ofString, List.length_map, String.length_toList, ← tiling.source_eq] at inside

namespace NestedCalls

/-- A call inside another, with a character of two bytes and blanks at both ends. -/
def text : String := "\n$a->translate('é',\n$a->translate($x)) "

/-- The call inside. -/
def inner : Node :=
  ⟨"call", true, 21, 38, 2, 2,
    [⟨"variable_name", true, 21, 23, 2, 2, []⟩,
     ⟨"->", false, 23, 25, 2, 2, []⟩,
     ⟨"name", true, 25, 34, 2, 2, []⟩,
     ⟨"arguments", true, 34, 38, 2, 2,
      [⟨"(", false, 34, 35, 2, 2, []⟩,
       ⟨"variable_name", true, 35, 37, 2, 2, [⟨"$", false, 35, 36, 2, 2, []⟩]⟩,
       ⟨")", false, 37, 38, 2, 2, []⟩]⟩]⟩

/-- A tree over the text in which one child of the arguments is empty. -/
def root : Node :=
  ⟨"call", true, 1, 39, 1, 2,
    [⟨"variable_name", true, 1, 3, 1, 1, []⟩,
     ⟨"->", false, 3, 5, 1, 1, []⟩,
     ⟨"name", true, 5, 14, 1, 1, []⟩,
     ⟨"arguments", true, 14, 39, 1, 2,
      [⟨"(", false, 14, 15, 1, 1, []⟩,
       ⟨"string", true, 15, 19, 1, 1, [⟨"string_content", true, 16, 18, 1, 1, []⟩]⟩,
       ⟨",", false, 19, 20, 1, 1, []⟩,
       ⟨"missing", true, 20, 20, 1, 1, []⟩,
       inner,
       ⟨")", false, 38, 39, 2, 2, []⟩]⟩]⟩

/-- A grammar that knows this tree only. -/
def grammar : Grammar Empty := fun _ => .ok { root, hasErrors := false }

end NestedCalls

theorem nestedCalls_tokens :
    (∀ point ∈ SourceText.ofString NestedCalls.text, point.isSurrogate = false) ∧
      NestedCalls.root.WellFormed NestedCalls.text ∧
      ∃ tokens,
        (NestedCalls.grammar.tokeniser (SourceText.ofString NestedCalls.text)).value = .ok tokens ∧
        (∀ token ∈ tokens, token.text ≠ "") ∧ Token.source tokens = NestedCalls.text ∧
        ∀ position < (SourceText.ofString NestedCalls.text).length,
          ∃! index, Token.Covers tokens index position := by
  have scalar : ∀ point ∈ SourceText.ofString NestedCalls.text, point.isSurrogate = false := by
    decide +kernel
  have formed : NestedCalls.root.WellFormed NestedCalls.text := by decide +kernel
  obtain ⟨text, same, lossless⟩ := tokeniser_lossless NestedCalls.grammar _ scalar
  obtain rfl := SourceText.ofString_injective same
  exact ⟨scalar, formed, lossless _ rfl formed⟩

end MessageHarvest
