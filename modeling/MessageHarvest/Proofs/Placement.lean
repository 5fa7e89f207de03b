/-
**Lines and places in the source.**

If the rows of a well-formed tree are counted right, every token that carries a line carries the line
it starts on. A skipped call is then found in the source where it says: its text stands there, its
line is that of its first lexeme, and the calls that were skipped follow one another without overlap.

* `Node.RowsCounted` — trees whose rows are counted in their source.
* `Tiling.numbered` — the tokens of such a tree carry the lines they start on.
* `StandsAt` — what it means for a skipped call to stand at a position of a text.
* `skipped_calls_stand_in_source` — the calls that an extraction of source text skips have their
  places in that text.
-/

import MessageHarvest.Extractor
import MessageHarvest.Proofs.CallSites
import MessageHarvest.Proofs.Lossless
import MessageHarvest.Validation

namespace MessageHarvest

/-! ### Lines -/

/-- The line of a position of a text, counted from one. -/
def lineAt (text : String) (position : Nat) : Int :=
  (text.toList.take position).count '\n' + 1

theorem lineAt_append (before after : String) :
    lineAt (before ++ after) before.length = newlines before + 1 := by
  rw [lineAt, String.toList_append, ← String.length_toList, List.take_left, newlines]

/-- Behind a text, every token that carries a line carries the line it starts on. -/
def Numbered : (before : String) → List Token → Prop
  | _, [] => True
  | before, token :: rest =>
    (∀ line, token.line? = some line → line = newlines before + 1) ∧
      Numbered (before ++ token.text) rest

namespace Numbered

theorem append {before : String} {first second : List Token} :
    Numbered before (first ++ second) ↔
      Numbered before first ∧ Numbered (before ++ Token.source first) second := by
  induction first generalizing before with
  | nil => simp [Numbered]
  | cons token first ih =>
    rw [List.cons_append, Numbered, ih, Numbered, Token.source_cons, String.append_assoc, and_assoc]

/-- **The line of a token is the one it starts on.** -/
theorem line_eq {tokens before after : List Token} {token : Token} {line : Int}
    (numbered : Numbered "" tokens) (split : tokens = before ++ token :: after)
    (carries : token.line? = some line) :
    line = lineAt (Token.source tokens) (Token.source before).length := by
  rw [split] at numbered
  have here := (append.mp numbered).2.1 line carries
  rw [String.empty_append] at here
  rw [here, split, Token.source_append, lineAt_append]

end Numbered

namespace Node

/-- The rows of a node are the numbers of newlines before its start and before its end. -/
structure CountsRows (text : String) (node : Node) : Prop where
  startRow_eq : node.startRow = newlineBytes text.toUTF8 node.startByte
  endRow_eq : node.endRow = newlineBytes text.toUTF8 node.endByte

instance (text : String) : DecidablePred (CountsRows text) := fun node =>
  decidable_of_iff
    (node.startRow = newlineBytes text.toUTF8 node.startByte ∧
      node.endRow = newlineBytes text.toUTF8 node.endByte)
    ⟨fun ⟨start, stop⟩ => ⟨start, stop⟩, fun ⟨start, stop⟩ => ⟨start, stop⟩⟩

/-- Every node of the tree has its rows counted in the text. -/
def RowsCounted (text : String) (root : Node) : Prop :=
  Throughout (CountsRows text) root

instance (text : String) : DecidablePred (RowsCounted text) :=
  inferInstanceAs (DecidablePred (Throughout (CountsRows text)))

end Node

/-! ### The lines of a tiling -/

theorem numbered_gapTokens {before : String} {line : Int} (counted : line = newlines before + 1)
    (gap : String) : Numbered before (gapTokens gap line) := by
  unfold gapTokens
  split
  · trivial
  · refine ⟨fun other carries => ?_, trivial⟩
    rw [← Option.some.inj carries, counted]

theorem Node.line_tokenOfText {node : Node} {body : String} {line : Int}
    (carries : (node.tokenOfText body).line? = some line) : line = node.startRow + 1 := by
  unfold tokenOfText at carries
  split_ifs at carries
  · exact (Option.some.inj carries).symm
  · cases carries
  · exact (Option.some.inj carries).symm
  · exact (Option.some.inj carries).symm

/-- **The tokens of a tiling carry the lines they start on**, if its leaves have their rows counted in
the whole text. -/
theorem Tiling.numbered {before rest : String} {line : Int} {leaves : List Node}
    {tokens : List Token} (tiling : Tiling before line leaves rest tokens)
    (counted : line = newlines before + 1)
    (rows : ∀ leaf ∈ leaves, leaf.CountsRows (before ++ rest)) : Numbered before tokens := by
  induction tiling with
  | last => exact numbered_gapTokens counted _
  | @leaf before line node leaves gap body rest tokens start stop shown behind ih =>
    obtain ⟨⟨startRow, endRow⟩, rows⟩ := List.forall_mem_cons.mp rows
    have whole : before ++ (gap ++ (body ++ rest)) = before ++ gap ++ body ++ rest := by
      rw [String.append_assoc, String.append_assoc]
    rw [← start, ← String.append_assoc, newlineBytes_append] at startRow
    rw [← stop, whole, newlineBytes_append] at endRow
    rw [whole] at rows
    rw [Numbered.append, source_gapTokens]
    refine ⟨numbered_gapTokens counted gap, fun line carries => ?_, ?_⟩
    · rw [Node.line_tokenOfText carries, startRow]
    · rw [Node.text_tokenOfText]
      exact ih (by rw [endRow]) rows

/-- The tokens of a tree with counted rows carry the lines they start on. -/
theorem Node.RowsCounted.numbered {text : String} {root : Node} {tokens : List Token}
    (rows : root.RowsCounted text) (tiling : Tiling "" 1 root.leaves text tokens) :
    Numbered "" tokens := by
  refine tiling.numbered rfl fun leaf member => ?_
  rw [String.empty_append]
  exact rows.of_mem_leaves member

/-! ### Places -/

namespace Token

/-- The token is punctuation and carries no line. -/
def isPunctuation : Token → Bool
  | punctuation _ => true
  | lexeme _ _ _ => false

theorem isPunctuation_of_line? {token : Token} (unlined : token.line? = none) :
    token.isPunctuation = true := by
  cases token with
  | punctuation _ => rfl
  | lexeme _ _ _ => cases unlined

end Token

/-- The line of the first lexeme of a slice that stands behind other tokens in a text. There is none
only if the slice is punctuation alone. -/
inductive LineOfSlice (text : String) (before slice : List Token) : Option Int → Prop
  | none (punctuation : ∀ token ∈ slice, token.isPunctuation = true) :
      LineOfSlice text before slice none
  | some {first rest : List Token} {lexeme : Token} (split : slice = first ++ lexeme :: rest)
      (punctuation : ∀ token ∈ first, token.isPunctuation = true)
      (other : lexeme.isPunctuation = false) :
      LineOfSlice text before slice (some (lineAt text (Token.source (before ++ first)).length))

/-- A skipped call stands at a position of a text: its source can be read there, a slice of the tokens
spells it, and its line is that of the slice. -/
def StandsAt (text : String) (tokens : List Token) (call : SkippedCall) (position : Nat) : Prop :=
  (text.toList.drop position).take call.source.length = call.source.toList ∧
    ∃ before slice after, tokens = before ++ slice ++ after ∧
      (Token.source before).length = position ∧ Token.source slice = call.source ∧
      LineOfSlice text before slice call.line

/-- The skipped calls with their positions in a text, where they stand one behind the other. -/
structure Placement (text : String) (tokens : List Token) (skipped : List SkippedCall)
    (placed : List (SkippedCall × Nat)) : Prop where
  calls_eq : placed.map Prod.fst = skipped
  standsAt : ∀ entry ∈ placed, StandsAt text tokens entry.1 entry.2
  ordered : placed.Pairwise fun first second => first.2 + first.1.source.length ≤ second.2

/-- The line of a slice of numbered tokens is that of its first lexeme. -/
theorem Numbered.lineOfSlice {tokens before slice after : List Token}
    (numbered : Numbered "" tokens) (split : tokens = before ++ slice ++ after) :
    LineOfSlice (Token.source tokens) before slice (Token.firstLine? slice) := by
  cases found : Token.firstLine? slice with
  | none =>
    refine .none fun token member => Token.isPunctuation_of_line? ?_
    exact List.findSome?_eq_none_iff.mp found token member
  | some line =>
    obtain ⟨first, lexeme, rest, rfl, carries, quiet⟩ := List.findSome?_eq_some_iff.mp found
    have placed : tokens = before ++ first ++ lexeme :: (rest ++ after) := by
      rw [split]
      simp
    rw [numbered.line_eq placed carries]
    refine .some rfl (fun token member => Token.isPunctuation_of_line? (quiet token member)) ?_
    cases lexeme with
    | punctuation _ => cases carries
    | lexeme _ _ _ => rfl

/-- A skipped call that is shown as a slice of numbered tokens stands where the slice does. -/
theorem Numbered.standsAt {tokens before slice after : List Token} {call : SkippedCall}
    (numbered : Numbered "" tokens) (split : tokens = before ++ slice ++ after)
    (line : call.line = Token.firstLine? slice) (source : call.source = Token.source slice) :
    StandsAt (Token.source tokens) tokens call (Token.source before).length := by
  refine ⟨?_, before, slice, after, split, rfl, source.symm, line ▸ numbered.lineOfSlice split⟩
  rw [source, split, Token.source_append, Token.source_append, String.append_assoc,
    String.toList_append, String.toList_append, List.drop_left' String.length_toList,
    List.take_left' String.length_toList]

/-! ### Skipped calls in the source -/

/-- The tokens up to the end of a slice are those before the slice and the slice. -/
theorem take_append_slice {site stop : Nat} (proper : site ≤ stop) (tokens : List Token) :
    tokens.take site ++ (tokens.take stop).drop site = tokens.take stop := by
  have before : tokens.take site = (tokens.take stop).take site := by
    rw [List.take_take, Nat.min_eq_left proper]
  rw [before, List.take_append_drop]

theorem length_source_take_mono {first second : Nat} (le : first ≤ second) (tokens : List Token) :
    (Token.source (tokens.take first)).length ≤ (Token.source (tokens.take second)).length := by
  rw [← take_append_slice le, Token.source_append, String.length_append]
  exact Nat.le_add_right _ _

/-- **The skipped calls of a scan stand in what numbered tokens spell**, one behind the other. -/
theorem Numbered.exists_placement {tokens : List Token} (numbered : Numbered "" tokens)
    (pattern : Pattern) (defaultCategory : String) :
    ∃ placed, Placement (Token.source tokens) tokens
      (scan pattern defaultCategory tokens).value.skipped placed := by
  obtain ⟨sited, found⟩ := exists_sited_records pattern tokens
  let skips := sited.filterMap (Sited.select Record.skipped?)
  have extent (skip : Sited SkippedCall) (member : skip ∈ skips) :=
    (found.holds _ (SitedRecords.mem_of_skip member)).isExtent
  have proper (skip : Sited SkippedCall) (member : skip ∈ skips) : skip.site ≤ skip.stop :=
    Nat.le_of_lt (found.holds _ (SitedRecords.mem_of_skip member)).bounds.1
  refine ⟨skips.map fun skip =>
    (skip.found, (Token.source (tokens.take skip.site)).length), ?_, ?_, ?_⟩
  · rw [List.map_map, value_scan_eq_ofRecords]
    show skips.map Sited.found = (records pattern tokens).filterMap Record.skipped?
    rw [Sited.map_found_select, found.found_eq]
  · intro entry member
    obtain ⟨skip, inside, rfl⟩ := List.mem_map.mp member
    obtain ⟨_, line, source⟩ := extent skip inside
    have split : tokens = tokens.take skip.site ++ (tokens.take skip.stop).drop skip.site ++
        tokens.drop skip.stop := by
      rw [take_append_slice (proper skip inside), List.take_append_drop]
    exact numbered.standsAt split line source
  · rw [List.pairwise_map]
    apply (Sited.ordered_select found.ordered).imp_of_mem
    intro first second member _ ordered
    obtain ⟨_, _, source⟩ := extent first member
    show _ + first.found.source.length ≤ _
    rw [source, ← String.length_append, ← Token.source_append, take_append_slice (proper first member)]
    exact length_source_take_mono ordered tokens

/-- The answer to a request for the messages of a source that can be tokenised. -/
theorem Extractor.answer_sourceMessages {Other Problem Error : Type}
    (validator : Validator Other Problem) {extractor : Extractor Error} {source : SourceText}
    {tokens : List Token} (read : (extractor.tokeniser source).value = .ok tokens) :
    (extractor.answer validator (.sourceMessages source)).value =
      (.ok (.messages
        (scan extractor.pattern extractor.config.defaultCategory tokens).value.catalogue),
        { extractor with skipped :=
            (scan extractor.pattern extractor.config.defaultCategory tokens).value.skipped }) := by
  simp [answer, read, extract]

/-- **Skipped calls point at their places in the source.** If a grammar gives a well-formed tree with
counted rows for a text, then tokenising the text succeeds, every token that carries a line carries
the line it starts on, and extracting from the text leaves skipped calls that stand in the text one
behind the other, each with the line of its first lexeme. -/
theorem skipped_calls_stand_in_source {Other Problem Error : Type}
    (validator : Validator Other Problem) {grammar : Grammar Error}
    {extractor : Extractor (TokeniseError Error)} {text : String} {parse : Parse}
    (uses : extractor.tokeniser = grammar.tokeniser) (parsed : grammar text = .ok parse)
    (formed : parse.root.WellFormed text) (rows : parse.root.RowsCounted text) :
    ∃ tokens, (grammar.tokeniser (SourceText.ofString text)).value = .ok tokens ∧
      Token.source tokens = text ∧
      (∀ before token after line, tokens = before ++ token :: after → token.line? = some line →
        line = lineAt text (Token.source before).length) ∧
      ∃ catalogue later placed,
        (extractor.answer validator (.sourceMessages (SourceText.ofString text))).value =
          (.ok (.messages catalogue), later) ∧
        Placement text tokens later.skipped placed := by
  obtain ⟨tokens, read, tiling⟩ := Grammar.exists_tiling parsed formed
  have numbered := rows.numbered tiling
  have spelled := tiling.source_eq
  obtain ⟨placed, placement⟩ :=
    numbered.exists_placement extractor.pattern extractor.config.defaultCategory
  rw [spelled] at placement
  have answered := Extractor.answer_sourceMessages validator (uses ▸ read)
  refine ⟨tokens, read, spelled, ?_, _, _, placed, answered, placement⟩
  intro before token after line split carries
  rw [← spelled]
  exact numbered.line_eq split carries

/-- An extractor for the sample text. -/
def NestedCalls.extractor : Extractor (TokeniseError Empty) where
  config := Config.default
  tokeniser := grammar.tokeniser
  pattern := arrowTranslate
  skipped := []

/-- The call inside is skipped, and stands on the third line. -/
theorem nestedCalls_skipped :
    NestedCalls.root.WellFormed NestedCalls.text ∧ NestedCalls.root.RowsCounted NestedCalls.text ∧
      ∃ tokens placed,
        (NestedCalls.grammar.tokeniser (SourceText.ofString NestedCalls.text)).value = .ok tokens ∧
        (NestedCalls.extractor.answer Validator.lenient
          (.sourceMessages (SourceText.ofString NestedCalls.text))).value.2.skipped =
            [⟨some 3, "->translate($x)"⟩] ∧
        Placement NestedCalls.text tokens [⟨some 3, "->translate($x)"⟩] placed := by
  have formed : NestedCalls.root.WellFormed NestedCalls.text := by decide +kernel
  have rows : NestedCalls.root.RowsCounted NestedCalls.text := by decide +kernel
  have skipped : (NestedCalls.extractor.answer Validator.lenient
      (.sourceMessages (SourceText.ofString NestedCalls.text))).value.2.skipped =
        [⟨some 3, "->translate($x)"⟩] := by decide +kernel
  have grammar : NestedCalls.grammar NestedCalls.text =
      .ok { root := NestedCalls.root, hasErrors := false } := rfl
  have uses : NestedCalls.extractor.tokeniser = NestedCalls.grammar.tokeniser := rfl
  obtain ⟨tokens, read, _, _, _, later, placed, answered, placement⟩ :=
    skipped_calls_stand_in_source Validator.lenient uses grammar formed rows
  rw [answered] at skipped
  refine ⟨formed, rows, tokens, placed, read, ?_, ?_⟩
  · rw [answered]
    exact skipped
  · exact skipped ▸ placement

end MessageHarvest
