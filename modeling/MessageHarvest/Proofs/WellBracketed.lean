/-
**Scanning well-bracketed streams.**

In a balanced stream every call is closed, and its arguments are balanced again, so that the one
thing that may be wrong with a call is its message. The parameters of a call that has a message are
always balanced. Calls that are not closed, or whose brackets do not match, are therefore met in the
outermost stream only, whatever that stream is.

* `Scanned`, `Rescanned` — the streams that are scanned in the course of a scan.
* `Rescanned.balanced` — parameters are balanced.
* `wellBracketedCalls_of_balanced` — the calls of a balanced stream.
* `balanced_scan_skips_nonliteral_only` — which calls a scan skips, and why.
-/

import MessageHarvest.Proofs.CallLayout
import MessageHarvest.Proofs.Records
import MessageHarvest.Proofs.Splitting

namespace MessageHarvest

/-! ### The streams of a scan -/

/-- The streams that are scanned in the course of a scan: the stream itself, the parameters of its
calls, the parameters of calls inside those, and so on. -/
inductive Scanned (pattern : Pattern) : List Token → List Token → Prop
  | whole (stream : List Token) : Scanned pattern stream stream
  | nested {stream group inner : List Token} {call : Call} :
      call ∈ calls pattern stream → call.HasParameters group → Scanned pattern group inner →
        Scanned pattern stream inner

/-- The streams that are scanned in the course of a scan because they are parameters of a call. -/
def Rescanned (pattern : Pattern) (stream inner : List Token) : Prop :=
  ∃ call ∈ calls pattern stream, ∃ group, call.HasParameters group ∧ Scanned pattern group inner

theorem Scanned.eq_or_rescanned {pattern : Pattern} {stream inner : List Token}
    (scanned : Scanned pattern stream inner) : inner = stream ∨ Rescanned pattern stream inner := by
  cases scanned with
  | whole => exact Or.inl rfl
  | nested member parameters deeper => exact Or.inr ⟨_, member, _, parameters, deeper⟩

theorem Call.HasParameters.balanced {call : Call} {group : List Token}
    (parameters : call.HasParameters group) : Balanced group := by
  obtain ⟨id, category, reads⟩ := parameters
  obtain ⟨_, _, groups, _, splits, _, _, second⟩ := exists_groups_of_read reads
  exact Groups.balanced_of_split? splits group
    (List.mem_cons_of_mem _ (List.mem_of_getElem? second.symm))

/-- Streams that are scanned on behalf of a balanced one are balanced. -/
theorem Scanned.balanced {pattern : Pattern} {stream inner : List Token}
    (scanned : Scanned pattern stream inner) (balanced : Balanced stream) : Balanced inner := by
  induction scanned with
  | whole => exact balanced
  | nested _ parameters _ ih => exact ih parameters.balanced

/-- **Parameters are balanced**, whatever stream they stand in. -/
theorem Rescanned.balanced {pattern : Pattern} {stream inner : List Token}
    (rescanned : Rescanned pattern stream inner) : Balanced inner := by
  obtain ⟨call, _, group, parameters, deeper⟩ := rescanned
  exact deeper.balanced parameters.balanced

/-! ### The calls of a balanced stream -/

/-- Every call of the stream is closed by the partner of its parenthesis: what stands between the two
is balanced, and it can be split into groups. -/
def WellBracketedCalls (pattern : Pattern) (stream : List Token) : Prop :=
  ∀ call ∈ calls pattern stream, ∃ before lead arguments rest,
    stream = before ++ lead ++ Token.openParen :: (arguments ++ Token.closeParen :: rest) ∧
    call = .closed (lead ++ Token.openParen :: (arguments ++ [Token.closeParen])) arguments ∧
    Balanced arguments ∧ (CallParameters.ofArguments? arguments).isSome

theorem wellBracketedCalls_of_balanced (pattern : Pattern) {stream : List Token}
    (balanced : Balanced stream) : WellBracketedCalls pattern stream := by
  intro call member
  rcases mem_calls_cases member with ⟨before, lead, arguments, rfl, _, stays, _⟩ |
    ⟨before, lead, arguments, rest, rfl, _, enclosed, rfl⟩
  · exact absurd stays balanced.not_staysOpen
  · have inner := balanced.of_enclosed enclosed
    refine ⟨before, lead, arguments, rest, rfl, rfl, inner, ?_⟩
    rw [CallParameters.ofArguments?, Option.isSome_map]
    exact Groups.isSome_split?_iff.mpr inner

/-- Where calls are well bracketed, one without a readable message has no literal for it. -/
theorem WellBracketedCalls.read_of_unreadable {pattern : Pattern} {stream : List Token}
    (wellBracketed : WellBracketedCalls pattern stream) {call : Call}
    (member : call ∈ calls pattern stream) (unreadable : call.Unreadable) :
    call.read = .notLiteral := by
  obtain ⟨_, _, arguments, _, _, rfl, _, succeeds⟩ := wellBracketed call member
  rw [CallParameters.ofArguments?, Option.isSome_map] at succeeds
  obtain ⟨groups, splits⟩ := Option.isSome_iff_exists.mp succeeds
  cases literal : Literal.value? groups.first with
  | none =>
    rw [Call.read_closed, splits]
    simp only [literal]
  | some id => exact absurd (Call.read_of_split splits literal) (unreadable _ _ _)

/-! ### Which calls are skipped -/

/-- A skipped call is a call without a readable message in one of the streams that are scanned. -/
theorem exists_scanned_of_skip {pattern : Pattern} {stream : List Token} {skipped : SkippedCall}
    (member : Record.skip skipped ∈ records pattern stream) :
    ∃ inner, Scanned pattern stream inner ∧
      ∃ call ∈ calls pattern inner, call.Unreadable ∧ call.toSkipped = skipped := by
  rw [records_eq, List.mem_flatMap] at member
  obtain ⟨call, found, inside⟩ := member
  rcases call.unreadable_or_message with unreadable | ⟨id, category, parameters, reads⟩
  · rw [Call.recordsAs_of_unreadable unreadable, List.mem_singleton] at inside
    exact ⟨stream, Scanned.whole stream, call, found, unreadable, (Record.skip.inj inside).symm⟩
  · cases parameters with
    | none =>
      rw [Call.recordsAs_of_message reads, List.mem_singleton] at inside
      cases inside
    | some group =>
      rw [Call.recordsAs_of_parameters reads, List.mem_cons] at inside
      rcases inside with impossible | deeper
      · cases impossible
      · have parameters : call.HasParameters group := ⟨id, category, reads⟩
        have shorter := Call.length_parameters_lt found parameters
        obtain ⟨inner, scanned, skips⟩ := exists_scanned_of_skip deeper
        exact ⟨inner, Scanned.nested found parameters scanned, skips⟩
termination_by stream.length

theorem mem_skipped_scan {pattern : Pattern} {defaultCategory : String} {stream : List Token}
    {skipped : SkippedCall} (member : skipped ∈ (scan pattern defaultCategory stream).value.skipped) :
    Record.skip skipped ∈ records pattern stream := by
  rw [value_scan_eq_ofRecords, Extraction.ofRecords, List.mem_filterMap] at member
  obtain ⟨record, found, skips⟩ := member
  cases record with
  | skip call => exact Option.some.inj skips ▸ found
  | message category id => cases skips

/-- **In a balanced stream calls are skipped only for want of a literal message.** At every depth of
nesting, each call is closed by the partner of its parenthesis and its arguments are balanced.
Whatever the outermost stream is, the parameters that are scanned in turn are balanced, so that a
call of theirs is skipped for that reason only; any other skipped call is one of the outermost
stream. -/
theorem balanced_scan_skips_nonliteral_only (pattern : Pattern) (defaultCategory : String)
    (stream : List Token) :
    (Balanced stream →
      (∀ inner, Scanned pattern stream inner → WellBracketedCalls pattern inner) ∧
      ∀ skipped ∈ (scan pattern defaultCategory stream).value.skipped,
        ∃ inner, Scanned pattern stream inner ∧
          ∃ call ∈ calls pattern inner, call.read = .notLiteral ∧ call.toSkipped = skipped) ∧
    (∀ inner, Rescanned pattern stream inner →
      Balanced inner ∧ WellBracketedCalls pattern inner) ∧
    ∀ skipped ∈ (scan pattern defaultCategory stream).value.skipped,
      (∃ call ∈ calls pattern stream, call.Unreadable ∧ call.toSkipped = skipped) ∨
      ∃ inner, Rescanned pattern stream inner ∧
        ∃ call ∈ calls pattern inner, call.read = .notLiteral ∧ call.toSkipped = skipped := by
  refine ⟨fun balanced => ⟨?_, ?_⟩, ?_, ?_⟩
  · intro inner scanned
    exact wellBracketedCalls_of_balanced pattern (scanned.balanced balanced)
  · intro skipped member
    obtain ⟨inner, scanned, call, found, unreadable, same⟩ :=
      exists_scanned_of_skip (mem_skipped_scan member)
    have wellBracketed := wellBracketedCalls_of_balanced pattern (scanned.balanced balanced)
    exact ⟨inner, scanned, call, found, wellBracketed.read_of_unreadable found unreadable, same⟩
  · intro inner rescanned
    exact ⟨rescanned.balanced, wellBracketedCalls_of_balanced pattern rescanned.balanced⟩
  · intro skipped member
    obtain ⟨inner, scanned, call, found, unreadable, same⟩ :=
      exists_scanned_of_skip (mem_skipped_scan member)
    rcases scanned.eq_or_rescanned with rfl | rescanned
    · exact Or.inl ⟨call, found, unreadable, same⟩
    · have wellBracketed := wellBracketedCalls_of_balanced pattern rescanned.balanced
      exact Or.inr ⟨inner, rescanned, call, found,
        wellBracketed.read_of_unreadable found unreadable, same⟩

/-- The parameters `[->translate($id)]`. -/
def nestedParameters : List Token :=
  .punctuation "[" :: arrowTranslateAt 4 ++ [Token.openParen, .lexeme Kind.variableName "$id" 4,
    Token.closeParen, .punctuation "]"]

/-- The arguments `'a', [->translate($id)]`. -/
def nestedArguments : List Token :=
  [.lexeme Kind.string "'a'" 3, Token.comma] ++ nestedParameters

/-- The stream `[->translate('a', [->translate($id)])]`. -/
def nestedCall : List Token :=
  .punctuation "[" :: arrowTranslateAt 3 ++ Token.openParen :: nestedArguments ++
    [Token.closeParen, .punctuation "]"]

/-- A call whose message is a variable, inside the parameters of a call that has a message. -/
theorem nested_call_skipped_as_nonliteral :
    Balanced nestedCall ∧ Rescanned arrowTranslate nestedCall nestedParameters ∧
    (Balanced nestedParameters ∧ WellBracketedCalls arrowTranslate nestedParameters) ∧
    (scan arrowTranslate "app" nestedCall).value.skipped = [⟨some 4, "->translate($id)"⟩] ∧
    ∃ inner, Scanned arrowTranslate nestedCall inner ∧
      ∃ call ∈ calls arrowTranslate inner, call.read = .notLiteral ∧
        call.toSkipped = ⟨some 4, "->translate($id)"⟩ := by
  have balanced : Balanced nestedCall := by decide
  have outermost : Call.closed (arrowTranslateAt 3 ++ Token.openParen :: nestedArguments ++
      [Token.closeParen]) nestedArguments ∈ calls arrowTranslate nestedCall := by decide
  have rescanned : Rescanned arrowTranslate nestedCall nestedParameters :=
    ⟨_, outermost, nestedParameters, ⟨"a", none, by decide +kernel⟩, Scanned.whole _⟩
  have skipped : (scan arrowTranslate "app" nestedCall).value.skipped =
      [⟨some 4, "->translate($id)"⟩] := by decide +kernel
  obtain ⟨whole, nested, _⟩ := balanced_scan_skips_nonliteral_only arrowTranslate "app" nestedCall
  have member : ⟨some 4, "->translate($id)"⟩ ∈ (scan arrowTranslate "app" nestedCall).value.skipped := by
    rw [skipped]
    exact List.mem_singleton.mpr rfl
  exact ⟨balanced, rescanned, nested _ rescanned, skipped, (whole balanced).2 _ member⟩

end MessageHarvest
