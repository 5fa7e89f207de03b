/-
**Trivia and lines do not count.**

Blanks, comments and the lines of lexemes may change what a scan shows of a call that it skips, but
not what it finds. The proof looks at streams through the view that hides all trivia and puts every
lexeme on the same line: two streams that are alike show the same there.

* `Token.Alike` — the same tokens up to trivia and lines.
* `scan_ignores_trivia` — streams that are alike have the same messages, and the calls that are
  skipped in them are alike one by one.
-/

import MessageHarvest.Proofs.View

namespace MessageHarvest

/-! ### Streams that are alike -/

namespace Token

/-- The token on line zero. -/
def unlined : Token → Token
  | punctuation text => punctuation text
  | lexeme kind text _ => lexeme kind text 0

/-- Two streams have the same tokens, up to trivia and lines. -/
def Alike (first second : List Token) : Prop :=
  List.Forall₂ Same (significant first) (significant second)

instance (first second : List Token) : Decidable (Alike first second) :=
  inferInstanceAs (Decidable (List.Forall₂ Same (significant first) (significant second)))

theorem same_iff_unlined_eq {first second : Token} :
    first.Same second ↔ first.unlined = second.unlined := by
  cases first <;> cases second <;> simp [Same, unlined]

end Token

/-- The view that hides trivia and shows every lexeme on line zero. -/
def View.bare (pattern : Pattern) : View pattern pattern where
  lexeme? kind _ := if kind.isTrivia then none else some (kind, 0)
  isTrivia_of_hidden := by
    intro kind _ hidden
    simpa using hidden
  samePart := by
    intro kind _ shown seen
    rw [Option.ite_none_left_eq_some] at seen
    rw [← Option.some.inj seen.2]
    exact ⟨rfl, Iff.rfl, rfl⟩
  expected := by
    refine List.forall₂_same.mpr fun expected _ token shown seen => ?_
    cases token with
    | punctuation text =>
      obtain rfl := Option.some.inj seen
      rfl
    | lexeme kind text line =>
      obtain ⟨other, found, rfl⟩ := Option.map_eq_some_iff.mp seen
      rw [Option.ite_none_left_eq_some] at found
      rw [← Option.some.inj found.2]
      cases expected <;> rfl

/-- The bare view of a stream is its significant tokens on line zero. -/
theorem View.stream_bare (pattern : Pattern) (tokens : List Token) :
    (View.bare pattern).stream tokens = (Token.significant tokens).map Token.unlined := by
  induction tokens with
  | nil => rfl
  | cons token tokens ih =>
    cases token with
    | punctuation text =>
      rw [View.stream_punctuation, ih]
      rfl
    | lexeme kind text line =>
      cases trivia : kind.isTrivia with
      | true =>
        have hidden : (View.bare pattern).token? (.lexeme kind text line) = none := by
          simp [View.token?, Token.seen, View.bare, trivia]
        rw [View.stream_of_hidden hidden, ih]
        simp [Token.significant, Token.isTrivia, trivia]
      | false =>
        have shows : (View.bare pattern).token? (.lexeme kind text line) =
            some (.lexeme kind text 0) := by
          simp [View.token?, Token.seen, View.bare, trivia]
        rw [View.stream_of_shown shows, ih]
        simp [Token.significant, Token.isTrivia, trivia, Token.unlined]

/-- **Streams are alike if they look the same in the bare view.** -/
theorem Token.alike_iff_stream_bare (pattern : Pattern) {first second : List Token} :
    Alike first second ↔ (View.bare pattern).stream first = (View.bare pattern).stream second := by
  have same : Same = fun first second => first.unlined = second.unlined := by
    funext first second
    exact propext same_iff_unlined_eq
  rw [View.stream_bare, View.stream_bare, ← List.forall₂_eq_eq_eq, List.forall₂_map_left_iff,
    List.forall₂_map_right_iff, Alike, same]

/-! ### Scanning streams that are alike -/

/-- Streams that are alike have the same findings in the bare view. -/
theorem map_bare_findings {pattern : Pattern} {first second : List Token}
    (alike : Token.Alike first second) :
    (findings pattern first).map (Record.map (View.bare pattern).call) =
      (findings pattern second).map (Record.map (View.bare pattern).call) := by
  rw [← View.findings_stream, ← View.findings_stream, (Token.alike_iff_stream_bare pattern).mp alike]

theorem catalogue_eq_of_alike (pattern : Pattern) (defaultCategory : String)
    {first second : List Token} (alike : Token.Alike first second) :
    (scan pattern defaultCategory first).value.catalogue =
      (scan pattern defaultCategory second).value.catalogue := by
  rw [value_scan_eq_ofRecords, value_scan_eq_ofRecords]
  simp only [Extraction.ofRecords, records_eq_map_findings, Record.filterMap_message?_map]
  rw [← Record.filterMap_message?_map (View.bare pattern).call, map_bare_findings alike,
    Record.filterMap_message?_map]

/-- The calls that are skipped in streams that are alike are alike one by one. -/
theorem skippedCalls_alike (pattern : Pattern) {first second : List Token}
    (alike : Token.Alike first second) :
    List.Forall₂ (fun firstCall secondCall => Token.Alike firstCall.tokens secondCall.tokens)
      (skippedCalls pattern first) (skippedCalls pattern second) := by
  have same : (skippedCalls pattern first).map (View.bare pattern).call =
      (skippedCalls pattern second).map (View.bare pattern).call := by
    rw [skippedCalls, skippedCalls, ← Record.filterMap_skipped?_map,
      ← Record.filterMap_skipped?_map, map_bare_findings alike]
  rw [← List.forall₂_eq_eq_eq, List.forall₂_map_left_iff, List.forall₂_map_right_iff] at same
  refine same.imp fun firstCall secondCall sameCall => ?_
  rw [Token.alike_iff_stream_bare pattern, ← View.tokens_call, ← View.tokens_call, sameCall]

theorem length_skipped_eq_of_alike (pattern : Pattern) (defaultCategory : String)
    {first second : List Token} (alike : Token.Alike first second) :
    (scan pattern defaultCategory first).value.skipped.length =
      (scan pattern defaultCategory second).value.skipped.length := by
  rw [skipped_scan_eq, skipped_scan_eq, List.length_map, List.length_map,
    (skippedCalls_alike pattern alike).length_eq]

/-- **Trivia and lines do not influence a scan.** Streams with the same tokens up to trivia and lines
have the same messages, categories in the same order. As many calls are skipped in one as in the
other; they are slices of the streams, and the slices are alike one by one. -/
theorem scan_ignores_trivia (pattern : Pattern) (defaultCategory : String)
    {first second : List Token} (alike : Token.Alike first second) :
    (scan pattern defaultCategory first).value.catalogue =
        (scan pattern defaultCategory second).value.catalogue ∧
      (scan pattern defaultCategory first).value.skipped.length =
        (scan pattern defaultCategory second).value.skipped.length ∧
      (∀ stream ∈ [first, second],
        (scan pattern defaultCategory stream).value.skipped =
          (skippedCalls pattern stream).map Call.toSkipped ∧
        ∀ call ∈ skippedCalls pattern stream, call.tokens <:+: stream) ∧
      List.Forall₂ (fun firstCall secondCall => Token.Alike firstCall.tokens secondCall.tokens)
        (skippedCalls pattern first) (skippedCalls pattern second) := by
  refine ⟨catalogue_eq_of_alike pattern defaultCategory alike,
    length_skipped_eq_of_alike pattern defaultCategory alike, ?_, skippedCalls_alike pattern alike⟩
  intro stream _
  exact ⟨skipped_scan_eq pattern defaultCategory stream, fun _ => infix_of_mem_skippedCalls⟩

/-- The stream `->translate($id)->translate('a')`. -/
def plainCalls : List Token :=
  arrowTranslateAt 1 ++ [Token.openParen, .lexeme Kind.variableName "$id" 1, Token.closeParen] ++
    arrowTranslateAt 1 ++ [Token.openParen, .lexeme Kind.string "'a'" 1, Token.closeParen]

/-- The same with a comment in the lead of the first call, a blank before each parenthesis and another
before the message. -/
def spacedCalls : List Token :=
  [.lexeme Kind.operator "->" 2, .lexeme Kind.comment "/* id */" 2, .lexeme ⟨"name"⟩ "translate" 3,
    .lexeme Kind.whitespace " " 3, Token.openParen, .lexeme Kind.variableName "$id" 3,
    Token.closeParen] ++
  arrowTranslateAt 4 ++ [.lexeme Kind.whitespace " " 4, Token.openParen,
    .lexeme Kind.whitespace "\n" 4, .lexeme Kind.string "'a'" 5, Token.closeParen]

/-- Trivia show in what is reported of the skipped call only. -/
theorem scan_spaced_calls :
    Token.Alike plainCalls spacedCalls ∧
    (scan arrowTranslate "app" plainCalls).value.skipped = [⟨some 1, "->translate($id)"⟩] ∧
    (scan arrowTranslate "app" spacedCalls).value.skipped =
      [⟨some 2, "->/* id */translate ($id)"⟩] ∧
    (scan arrowTranslate "app" plainCalls).value.catalogue =
      (scan arrowTranslate "app" spacedCalls).value.catalogue := by
  have alike : Token.Alike plainCalls spacedCalls := by decide
  exact ⟨alike, by decide +kernel, by decide +kernel, (scan_ignores_trivia arrowTranslate "app" alike).1⟩

end MessageHarvest
