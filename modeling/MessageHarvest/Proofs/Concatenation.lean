/-
**Scanning a stream in pieces.**

What a scan finds in one part of a stream is not touched by the other parts, as long as a token that
is foreign to the pattern keeps them apart. Wherever a stream is cut, what its first part yields is
kept by the whole, but for a call that the cut leaves open.

* `scan_append_call` — the scan of a stream with a call in the middle.
* `calls_append_cases` — the calls of a stream that goes on.
* `scan_append_prefix` — the scan of a stream that goes on.
-/

import MessageHarvest.Proofs.CallLayout
import MessageHarvest.Proofs.Records

namespace MessageHarvest

/-! ### A call in the middle -/

/-- A scan may be cut at each of its outermost calls. -/
theorem scan_of_calls_append {pattern : Pattern} (defaultCategory : String)
    {stream before rest : List Token} {call : Call}
    (found : calls pattern stream = calls pattern before ++ call :: calls pattern rest) :
    scan pattern defaultCategory stream = (do
      let first ← scan pattern defaultCategory before
      let outcome ← call.resolve defaultCategory fun group _ => scan pattern defaultCategory group
      let last ← scan pattern defaultCategory rest
      return (first.addOutcome outcome).merge last) := by
  rw [scan_eq, found, scan_eq pattern defaultCategory before, scan_eq pattern defaultCategory rest]
  simp only [List.mapM_append, List.mapM_cons, bind_assoc, pure_bind,
    Extraction.ofOutcomes_append_cons]

/-- **Calls do not interfere.** A call behind a token that is foreign to the pattern is resolved on
its own tokens, whatever matches were begun before it; what stands before it and behind it is scanned
as if the call were not there. -/
theorem scan_append_call {pattern : Pattern} (defaultCategory : String)
    {before lead arguments : List Token} {separator : Token} (rest : List Token)
    (closed : ∀ tokens, Call.unclosed tokens ∉ calls pattern before)
    (plain : separator.isTrivia = false) (other : separator ≠ Token.openParen)
    (foreign : ∀ expected ∈ pattern.tokens, ¬ separator.Same expected)
    (isLead : IsLead pattern.tokens lead) (enclosed : Enclosed arguments) :
    scan pattern defaultCategory (before ++ [separator] ++ lead ++ [Token.openParen] ++ arguments ++
        [Token.closeParen] ++ rest) = (do
      let first ← scan pattern defaultCategory before
      let outcome ←
        (Call.closed (lead ++ [Token.openParen] ++ arguments ++ [Token.closeParen]) arguments).resolve
          defaultCategory fun group _ => scan pattern defaultCategory group
      let last ← scan pattern defaultCategory rest
      return (first.addOutcome outcome).merge last) := by
  have found : calls pattern (before ++ [separator] ++ lead ++ [Token.openParen] ++ arguments ++
        [Token.closeParen] ++ rest) =
      calls pattern before ++
        .closed (lead ++ [Token.openParen] ++ arguments ++ [Token.closeParen]) arguments ::
          calls pattern rest := by
    simpa using calls_append_call closed plain other foreign isLead enclosed rest
  exact scan_of_calls_append defaultCategory found

namespace MismatchedCall

/-- Arguments with a bracket that nothing closes. -/
def arguments : List Token :=
  [.lexeme Kind.string "'a'" 2, Token.comma, .punctuation "["]

/-- A call that can be read. -/
def rest : List Token :=
  arrowTranslateAt 3 ++ [Token.openParen, .lexeme Kind.string "'b'" 3, Token.closeParen]

/-- A match without a parenthesis, a call with the arguments, and the call that can be read. -/
def stream : List Token :=
  arrowTranslateAt 1 ++ [.punctuation ";"] ++ arrowTranslateAt 2 ++ [Token.openParen] ++ arguments ++
    [Token.closeParen] ++ rest

end MismatchedCall

/-- A complete match is left behind without its parenthesis, and the brackets inside the call that
follows do not match, so that it is skipped. -/
theorem scan_append_mismatched_call :
    (∀ tokens, Call.unclosed tokens ∉ calls arrowTranslate (arrowTranslateAt 1)) ∧
    IsLead arrowTranslate.tokens (arrowTranslateAt 2) ∧ Enclosed MismatchedCall.arguments ∧
    scan arrowTranslate "app" MismatchedCall.stream = (do
      let first ← scan arrowTranslate "app" (arrowTranslateAt 1)
      let outcome ← (Call.closed (arrowTranslateAt 2 ++ [Token.openParen] ++
          MismatchedCall.arguments ++ [Token.closeParen]) MismatchedCall.arguments).resolve
          "app" fun group _ => scan arrowTranslate "app" group
      let last ← scan arrowTranslate "app" MismatchedCall.rest
      return (first.addOutcome outcome).merge last) ∧
    (scan arrowTranslate "app" MismatchedCall.stream).value.skipped =
      [⟨some 2, "->translate('a',[)"⟩] ∧
    (scan arrowTranslate "app" MismatchedCall.stream).value.catalogue.entries = [("app", ["b"])] ∧
    (scan arrowTranslate "app" MismatchedCall.stream).log =
      [.skipping ⟨some 2, "->translate('a',[)"⟩] := by
  have none : calls arrowTranslate (arrowTranslateAt 1) = [] := by decide
  have closed : ∀ tokens, Call.unclosed tokens ∉ calls arrowTranslate (arrowTranslateAt 1) := by
    rw [none]
    exact fun tokens => List.not_mem_nil
  exact ⟨closed, by decide, by decide, scan_append_call "app" MismatchedCall.rest closed (by decide)
    (by decide) (by decide) (by decide) (by decide), by decide +kernel, by decide +kernel,
    by decide +kernel⟩

/-! ### A stream that goes on -/

/-- The calls that a stream closes are closed. -/
theorem Progress.not_mem_finished {pattern : Pattern} (progress : Progress) (tokens stream : List Token) :
    Call.unclosed tokens ∉ progress.finished pattern stream := by
  induction stream generalizing progress with
  | nil => exact List.not_mem_nil
  | cons token rest ih =>
    rw [finished, List.mem_append, not_or]
    refine ⟨?_, ih _⟩
    unfold closedBy
    split
    · exact List.not_mem_nil
    · split
      · simp
      · exact List.not_mem_nil

/-- **The calls of a stream are found again when the stream goes on**, but for one that may be open at
its end. -/
theorem calls_append_cases (pattern : Pattern) (stream more : List Token) :
    ∃ done, done <+: calls pattern (stream ++ more) ∧ (∀ tokens, Call.unclosed tokens ∉ done) ∧
      (calls pattern stream = done ∨
        ∃ tokens, calls pattern stream = done ++ [Call.unclosed tokens]) := by
  refine ⟨Progress.start.finished pattern stream, ?_,
    fun tokens => Progress.not_mem_finished _ tokens stream, ?_⟩
  · rw [calls_eq, Progress.finished_append, List.append_assoc]
    exact List.prefix_append _ _
  · rw [calls_eq]
    cases Progress.start.after pattern stream with
    | searching matcher => exact Or.inl (List.append_nil _)
    | capturing capture => exact Or.inr ⟨_, rfl⟩

theorem Call.unreadable_unclosed (tokens : List Token) : (unclosed tokens).Unreadable :=
  fun _ _ _ same => by cases same

/-- **The records of a stream are kept when the stream goes on**, but for that of the call that it
may end in. -/
theorem records_append_cases (pattern : Pattern) (stream more : List Token) :
    ∃ kept, kept <+: records pattern (stream ++ more) ∧
      ((∀ tokens, Call.unclosed tokens ∉ calls pattern stream) ∧ records pattern stream = kept ∨
        ∃ tokens, Call.unclosed tokens ∈ calls pattern stream ∧
          records pattern stream = kept ++ [.skip (Call.unclosed tokens).toSkipped]) := by
  obtain ⟨done, begins, closed, found | ⟨tokens, found⟩⟩ := calls_append_cases pattern stream more
  · refine ⟨records pattern stream, ?_, Or.inl ⟨by rwa [found], rfl⟩⟩
    rw [records_eq, records_eq, found]
    exact begins.flatMap _
  · refine ⟨done.flatMap fun call => call.recordsAs Call.toSkipped fun group _ => records pattern group, ?_,
      Or.inr ⟨tokens, ?_, ?_⟩⟩
    · rw [records_eq]
      exact begins.flatMap _
    · rw [found]
      exact List.mem_append_right _ (List.mem_singleton.mpr rfl)
    · rw [records_eq, found, List.flatMap_append, List.flatMap_singleton,
        Call.recordsAs_of_unreadable (Call.unreadable_unclosed tokens)]

/-- A skipped call at the end is put behind the others and changes no message. -/
theorem Extraction.ofRecords_append_skip (defaultCategory : String) (records : List (Record SkippedCall))
    (call : SkippedCall) :
    ofRecords defaultCategory (records ++ [.skip call]) =
      (ofRecords defaultCategory records).addOutcome (.skipped call) := by
  have noMessage : [Record.skip call].filterMap (Record.message? defaultCategory) = [] := rfl
  rw [ofRecords, List.filterMap_append, List.filterMap_append, noMessage, List.append_nil]
  rfl

/-- **A scan grows with its stream.** When a stream goes on, new categories come behind those that
were there and new ids behind those of their category. New skipped calls come behind the others too;
only if the stream ends inside a call, that call was the last one skipped, and is taken back first. -/
theorem scan_append_prefix (pattern : Pattern) (defaultCategory : String) (stream more : List Token) :
    (scan pattern defaultCategory stream).value.catalogue.categories <+:
        (scan pattern defaultCategory (stream ++ more)).value.catalogue.categories ∧
      (∀ category, (scan pattern defaultCategory stream).value.catalogue.ids category <+:
        (scan pattern defaultCategory (stream ++ more)).value.catalogue.ids category) ∧
      ((∀ tokens, Call.unclosed tokens ∉ calls pattern stream) ∧
          (scan pattern defaultCategory stream).value.skipped <+:
            (scan pattern defaultCategory (stream ++ more)).value.skipped ∨
        ∃ tokens earlier, Call.unclosed tokens ∈ calls pattern stream ∧
          (scan pattern defaultCategory stream).value.skipped =
            earlier ++ [(Call.unclosed tokens).toSkipped] ∧
          earlier <+: (scan pattern defaultCategory (stream ++ more)).value.skipped) := by
  obtain ⟨kept, begins, ending⟩ := records_append_cases pattern stream more
  have messages := begins.filterMap (Record.message? defaultCategory)
  have skips := begins.filterMap Record.skipped?
  rw [value_scan_eq_ofRecords, value_scan_eq_ofRecords]
  rcases ending with ⟨closed, same⟩ | ⟨tokens, unclosed, same⟩
  · rw [same]
    exact ⟨Catalogue.categories_group_prefix messages, Catalogue.ids_group_prefix messages,
      Or.inl ⟨closed, skips⟩⟩
  · rw [same, Extraction.ofRecords_append_skip]
    exact ⟨Catalogue.categories_group_prefix messages, Catalogue.ids_group_prefix messages,
      Or.inr ⟨tokens, _, unclosed, rfl, skips⟩⟩

end MessageHarvest
