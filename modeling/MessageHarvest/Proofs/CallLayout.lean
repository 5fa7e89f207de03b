/-
**Where the calls of a stream stand.**

The tokens before the parenthesis of a call match the pattern, trivia aside; the arguments of a call
end where counting parentheses ends. Both directions are given: what holds of the calls that are
found, and which calls are found in any case.

* `IsLead` — tokens that match the expected ones, trivia aside.
* `calls_cases` — the first call of a stream with the tokens around it; the other calls are those of
  what comes behind it.
* `calls_append_call` — a call behind a token that is foreign to the pattern is found, whatever comes
  before and after it.
* `calls_call` — a call at the very start of a stream is found too.
* `calls_foreign_append` — tokens that are foreign to the pattern are passed over.
-/

import Mathlib.Data.List.Forall2
import MessageHarvest.Proofs.Capturing
import MessageHarvest.Proofs.Progress

namespace MessageHarvest

/-! ### The tokens before the parenthesis of a call -/

/-- Tokens that match the expected ones up to trivia, none of which stands in front. -/
structure IsLead (expected lead : List Token) : Prop where
  starts : ∃ token rest, lead = token :: rest ∧ token.isTrivia = false
  same : List.Forall₂ Token.Same (Token.significant lead) expected

instance (expected lead : List Token) : Decidable (IsLead expected lead) :=
  decidable_of_iff ((lead.head?.any fun token => !token.isTrivia) = true ∧
      List.Forall₂ Token.Same (Token.significant lead) expected)
    ⟨fun both => by
      cases lead with
      | nil => cases both.1
      | cons token rest => exact ⟨⟨token, rest, rfl, by simpa using both.1⟩, both.2⟩,
    fun isLead => by
      obtain ⟨token, rest, rfl, plain⟩ := isLead.starts
      exact ⟨by simpa using plain, isLead.same⟩⟩

theorem Token.significant_append (first second : List Token) :
    Token.significant (first ++ second) = Token.significant first ++ Token.significant second :=
  List.filter_append ..

theorem Token.significant_singleton (token : Token) :
    Token.significant [token] = if token.isTrivia then [] else [token] := by
  cases trivia : token.isTrivia <;> simp [Token.significant, trivia]

namespace IsLead

theorem single {token expected : Token} (plain : token.isTrivia = false)
    (same : token.Same expected) : IsLead [expected] [token] where
  starts := ⟨token, [], rfl, plain⟩
  same := by
    rw [Token.significant_singleton, plain]
    exact List.Forall₂.cons same List.Forall₂.nil

theorem push_trivia {expected lead : List Token} {token : Token} (isLead : IsLead expected lead)
    (trivia : token.isTrivia = true) : IsLead expected (lead ++ [token]) where
  starts := by
    obtain ⟨first, rest, rfl, plain⟩ := isLead.starts
    exact ⟨first, rest ++ [token], rfl, plain⟩
  same := by
    rw [Token.significant_append, Token.significant_singleton, trivia]
    simpa using isLead.same

theorem push {expected lead : List Token} {token next : Token} (isLead : IsLead expected lead)
    (plain : token.isTrivia = false) (same : token.Same next) :
    IsLead (expected ++ [next]) (lead ++ [token]) where
  starts := by
    obtain ⟨first, rest, rfl, firstPlain⟩ := isLead.starts
    exact ⟨first, rest ++ [token], rfl, firstPlain⟩
  same := by
    rw [Token.significant_append, Token.significant_singleton, plain]
    exact List.rel_append isLead.same (List.Forall₂.cons same List.Forall₂.nil)

end IsLead

/-! ### Searching -/

/-- The tokens read since a match started are those that it has matched. -/
def Matcher.Sound (pattern : Pattern) (matcher : Matcher (List Token)) : Prop :=
  0 < matcher.matched → IsLead (pattern.tokens.take matcher.matched) matcher.start

theorem Matcher.sound_zero (pattern : Pattern) (start : List Token) :
    (Matcher.mk 0 start).Sound pattern :=
  fun impossible => absurd impossible (Nat.lt_irrefl 0)

namespace Progress

variable {pattern : Pattern} {token : Token}

theorem sound_push {matcher : Matcher (List Token)} (sound : matcher.Sound pattern)
    (trivia : token.isTrivia = true) : (matcher.push token).Sound pattern :=
  fun positive => (sound positive).push_trivia trivia

/-- A significant token keeps a matcher sound, and the tokens read since the match started are still
the last ones that were read. -/
theorem sound_feed {matcher : Matcher (List Token)} (sound : matcher.Sound pattern)
    (plain : token.isTrivia = false) :
    ((matcher.feed pattern token []).push token).Sound pattern ∧
      ((matcher.feed pattern token []).push token).start <:+ matcher.start ++ [token] := by
  obtain ⟨matched, start⟩ := matcher
  rcases Matcher.feed_cases pattern matched token with
    ends | ⟨expected, _, first, same, starts⟩ | ⟨expected, _, positive, more, same, continues⟩
  · rw [ends]
    exact ⟨Matcher.sound_zero pattern _, List.suffix_rfl⟩
  · rw [starts]
    refine ⟨?_, List.suffix_append start [token]⟩
    intro _
    show IsLead (pattern.tokens.take 1) [token]
    rw [first]
    exact IsLead.single plain same
  · rw [continues]
    refine ⟨?_, List.suffix_rfl⟩
    intro _
    show IsLead (pattern.tokens.take (matched + 1)) (start ++ [token])
    rw [more]
    exact (sound positive).push plain same

theorem isLead_of_complete {matcher : Matcher (List Token)} (sound : matcher.Sound pattern)
    (complete : matcher.isComplete pattern = true) : IsLead pattern.tokens matcher.start := by
  have matched : matcher.matched = pattern.tokens.length := of_decide_eq_true complete
  have isLead := sound (Matcher.matched_pos complete)
  rwa [matched, List.take_length] at isLead

/-- **A search finds no call or a place where one opens**: a lead with a parenthesis behind it. The
lead may have begun before the tokens at hand. -/
theorem searching_cases {matcher : Matcher (List Token)} (sound : matcher.Sound pattern)
    (tokens : List Token) :
    ((searching matcher).finished pattern tokens = [] ∧
      ∃ later, (searching matcher).after pattern tokens = searching later) ∨
    ∃ before lead rest, matcher.start ++ tokens = before ++ lead ++ Token.openParen :: rest ∧
      IsLead pattern.tokens lead ∧
      (searching matcher).finished pattern tokens =
        (capturing (Capture.new lead)).finished pattern rest ∧
      (searching matcher).after pattern tokens =
        (capturing (Capture.new lead)).after pattern rest := by
  induction tokens generalizing matcher with
  | nil => exact Or.inl ⟨rfl, matcher, rfl⟩
  | cons token tokens ih =>
    rw [finished_searching, after_cons]
    by_cases trivia : token.isTrivia = true
    · rw [next_trivia trivia]
      rcases ih (sound_push sound trivia) with quiet | ⟨before, lead, rest, split, opens⟩
      · exact Or.inl quiet
      · refine Or.inr ⟨before, lead, rest, ?_, opens⟩
        rw [← split, Matcher.push, List.append_assoc, List.singleton_append]
    · by_cases opening : matcher.isComplete pattern = true ∧ token = Token.openParen
      · obtain ⟨complete, rfl⟩ := opening
        rw [next_open complete]
        exact Or.inr ⟨[], matcher.start, tokens, rfl, isLead_of_complete sound complete, rfl, rfl⟩
      · have plain := Bool.eq_false_iff.mpr trivia
        -- Tokens of a match that is given up go to the tokens before the lead.
        obtain ⟨stillSound, earlier, suffix⟩ := sound_feed sound plain
        rw [next_feed plain opening]
        rcases ih stillSound with quiet | ⟨before, lead, rest, split, opens⟩
        · exact Or.inl quiet
        · refine Or.inr ⟨earlier ++ before, lead, rest, ?_, opens⟩
          rw [List.append_assoc, List.append_assoc, ← List.append_assoc before, ← split,
            ← List.append_assoc, suffix, List.append_assoc, List.singleton_append]

end Progress

/-! ### Capturing -/

namespace Progress

variable (pattern : Pattern)

/-- Tokens that do not close the call are its arguments. -/
theorem capturing_of_closings (capture : Capture (List Token)) {tokens : List Token}
    (quiet : capture.closings tokens = List.replicate tokens.length false) :
    (capturing capture).finished pattern tokens = [] ∧
      (capturing capture).after pattern tokens = capturing (capture.feedAll tokens) := by
  induction tokens generalizing capture with
  | nil => exact ⟨rfl, rfl⟩
  | cons token tokens ih =>
    obtain ⟨openCall, further⟩ := List.cons.inj quiet
    rw [finished, closedBy, if_neg (by rw [openCall]; decide), after_cons, next_capture openCall]
    exact ih (capture.feed token) further

/-- A call whose counting never ends is left open. -/
theorem capturing_unclosed (lead : List Token) {arguments : List Token} (stays : StaysOpen 0 arguments) :
    (capturing (Capture.new lead)).finished pattern arguments = [] ∧
      ((capturing (Capture.new lead)).after pattern arguments).pending =
        [.unclosed (lead ++ Token.openParen :: arguments)] := by
  obtain ⟨stayed, start, buffer, _⟩ := (Capture.new lead).feedAll_of_staysOpen stays
  obtain ⟨quiet, reached⟩ := capturing_of_closings pattern (Capture.new lead) stayed
  refine ⟨quiet, ?_⟩
  rw [reached, pending, start, buffer]
  rfl

/-- A call is closed where the counting ends, and the search starts anew behind it. -/
theorem capturing_closed (lead rest : List Token) {arguments : List Token}
    (enclosed : Enclosed arguments) :
    (capturing (Capture.new lead)).finished pattern (arguments ++ Token.closeParen :: rest) =
        .closed (lead ++ Token.openParen :: (arguments ++ [Token.closeParen])) arguments ::
          start.finished pattern rest ∧
      (capturing (Capture.new lead)).after pattern (arguments ++ Token.closeParen :: rest) =
        start.after pattern rest := by
  obtain ⟨stayed, start, buffer, _⟩ := (Capture.new lead).feedAll_of_staysOpen enclosed.staysOpen
  obtain ⟨quiet, reached⟩ := capturing_of_closings pattern (Capture.new lead) stayed
  have closes := Capture.isClosedBy_of_enclosed lead enclosed
  have arguments_eq : ((Capture.new lead).feedAll arguments).buffer.toList = arguments := by
    rw [buffer]
    rfl
  rw [finished_append, quiet, after_append, reached, List.nil_append, finished, after_cons, closedBy,
    if_pos closes, next_close closes, arguments_eq, start]
  exact ⟨rfl, rfl⟩

end Progress

/-! ### The first call of a stream -/

/-- **The calls of a stream, by the first of them.** There is none; or the first one is never closed;
or it is closed, and the others are the calls of what comes behind it. -/
theorem calls_cases (pattern : Pattern) (stream : List Token) :
    calls pattern stream = [] ∨
    (∃ before lead arguments, stream = before ++ lead ++ Token.openParen :: arguments ∧
      IsLead pattern.tokens lead ∧ StaysOpen 0 arguments ∧
      calls pattern stream = [.unclosed (lead ++ Token.openParen :: arguments)]) ∨
    ∃ before lead arguments rest,
      stream = before ++ lead ++ Token.openParen :: (arguments ++ Token.closeParen :: rest) ∧
      IsLead pattern.tokens lead ∧ Enclosed arguments ∧
      calls pattern stream =
        .closed (lead ++ Token.openParen :: (arguments ++ [Token.closeParen])) arguments ::
          calls pattern rest := by
  have sound : (Matcher.new []).Sound pattern := Matcher.sound_zero pattern []
  rcases Progress.searching_cases sound stream with
    ⟨quiet, later, reached⟩ | ⟨before, lead, tokens, split, isLead, finished, after⟩
  · refine Or.inl ?_
    rw [calls_eq, Progress.start, quiet, reached]
    rfl
  · rw [calls_eq, Progress.start, finished, after]
    rcases staysOpen_or_closes 0 tokens with stays | ⟨arguments, rest, rfl, stays, even⟩
    · obtain ⟨none, openCall⟩ := Progress.capturing_unclosed pattern lead stays
      refine Or.inr (Or.inl ⟨before, lead, tokens, split, isLead, stays, ?_⟩)
      rw [none, openCall]
      rfl
    · have enclosed : Enclosed arguments := ⟨stays, by rwa [Nat.zero_add] at even⟩
      obtain ⟨closed, restarted⟩ := Progress.capturing_closed pattern lead rest enclosed
      refine Or.inr (Or.inr ⟨before, lead, arguments, rest, split, isLead, enclosed, ?_⟩)
      rw [closed, restarted, calls_eq]
      rfl

/-- What comes behind a call is shorter than the stream. -/
theorem length_rest_lt {stream before lead arguments rest : List Token}
    (split : stream = before ++ lead ++ Token.openParen :: (arguments ++ Token.closeParen :: rest)) :
    rest.length < stream.length := by
  rw [split]
  simp only [List.length_append, List.length_cons]
  omega

/-- **Where a call of a stream stands**: its tokens are a slice of the stream that begins with a lead
and a parenthesis. It is unclosed only if counting from there on never ends, and then it reaches to
the end of the stream. -/
theorem mem_calls_cases {pattern : Pattern} {stream : List Token} {call : Call}
    (member : call ∈ calls pattern stream) :
    (∃ before lead arguments, stream = before ++ lead ++ Token.openParen :: arguments ∧
      IsLead pattern.tokens lead ∧ StaysOpen 0 arguments ∧
      call = .unclosed (lead ++ Token.openParen :: arguments)) ∨
    ∃ before lead arguments rest,
      stream = before ++ lead ++ Token.openParen :: (arguments ++ Token.closeParen :: rest) ∧
      IsLead pattern.tokens lead ∧ Enclosed arguments ∧
      call = .closed (lead ++ Token.openParen :: (arguments ++ [Token.closeParen])) arguments := by
  rcases calls_cases pattern stream with
    none | ⟨before, lead, arguments, split, isLead, stays, found⟩ |
      ⟨before, lead, arguments, rest, split, isLead, enclosed, found⟩
  · rw [none] at member
    cases member
  · rw [found] at member
    exact Or.inl ⟨before, lead, arguments, split, isLead, stays, List.mem_singleton.mp member⟩
  · rw [found] at member
    rcases List.mem_cons.mp member with same | later
    · exact Or.inr ⟨before, lead, arguments, rest, split, isLead, enclosed, same⟩
    · have shorter := length_rest_lt split
      obtain ⟨passed, shift⟩ : ∃ passed, stream = passed ++ rest :=
        ⟨before ++ lead ++ Token.openParen :: (arguments ++ [Token.closeParen]), by rw [split]; simp⟩
      -- A call behind the first one stands at the same distance from the end of either stream.
      rcases mem_calls_cases later with ⟨further, nextLead, nextArguments, splitRest, holds⟩ |
        ⟨further, nextLead, nextArguments, nextRest, splitRest, holds⟩
      · refine Or.inl ⟨passed ++ further, nextLead, nextArguments, ?_, holds⟩
        rw [shift, splitRest]
        simp
      · refine Or.inr ⟨passed ++ further, nextLead, nextArguments, nextRest, ?_, holds⟩
        rw [shift, splitRest]
        simp
termination_by stream.length

/-! ### Calls that are always found -/

namespace Progress

/-- A token that is foreign to the pattern leaves nothing matched. -/
theorem next_foreign {pattern : Pattern} (matcher : Matcher (List Token)) {token : Token}
    (plain : token.isTrivia = false) (other : token ≠ Token.openParen)
    (foreign : ∀ expected ∈ pattern.tokens, ¬ token.Same expected) :
    ∃ read, (searching matcher).next pattern token = searching ⟨0, read⟩ := by
  obtain ⟨matched, read⟩ := matcher
  rw [next_feed plain fun opens => other opens.2]
  rcases Matcher.feed_cases pattern matched token with
    ends | ⟨expected, member, _, same, _⟩ | ⟨expected, member, _, _, same, _⟩
  · rw [ends]
    exact ⟨read ++ [token], rfl⟩
  · exact absurd same (foreign expected member)
  · exact absurd same (foreign expected member)

/-- The token that the pattern asks for next continues the match or starts it. -/
theorem next_same {pattern : Pattern} {matched : Nat} {read : List Token} {token expected : Token}
    (plain : token.isTrivia = false) (found : pattern.tokens[matched]? = some expected)
    (same : token.Same expected) :
    (searching ⟨matched, read⟩).next pattern token =
      searching ⟨matched + 1, (if matched = 0 then [] else read) ++ [token]⟩ := by
  have incomplete : (Matcher.mk matched read).isComplete pattern = false := by
    obtain ⟨inside, _⟩ := List.getElem?_eq_some_iff.mp found
    exact decide_eq_false (Nat.ne_of_lt inside)
  have stays : ¬ ((Matcher.mk matched read).isComplete pattern = true ∧ token = Token.openParen) := by
    rw [incomplete]
    simp
  have place : (Matcher.mk matched read).place pattern = matched :=
    if_neg (by rw [incomplete]; decide)
  rw [next_feed plain stays, Matcher.feed_eq (by rw [place]; exact found), if_pos same, place]
  rfl

/-- The rest of the pattern completes a match that has begun. -/
theorem searching_completes {pattern : Pattern} {tokens : List Token} {matched : Nat}
    {read : List Token} (positive : 0 < matched) (bounded : matched ≤ pattern.length)
    (same : List.Forall₂ Token.Same (Token.significant tokens) (pattern.tokens.drop matched)) :
    (searching ⟨matched, read⟩).finished pattern tokens = [] ∧
      (searching ⟨matched, read⟩).after pattern tokens =
        searching ⟨pattern.length, read ++ tokens⟩ := by
  induction tokens generalizing matched read with
  | nil =>
    have all : pattern.tokens.length ≤ matched :=
      List.drop_eq_nil_iff.mp (List.forall₂_nil_left_iff.mp same)
    have complete : matched = pattern.length := Nat.le_antisymm bounded all
    subst complete
    refine ⟨rfl, ?_⟩
    rw [List.append_nil]
    rfl
  | cons token tokens ih =>
    rw [finished_searching, after_cons]
    by_cases trivia : token.isTrivia = true
    · have unchanged : Token.significant (token :: tokens) = Token.significant tokens := by
        simp [Token.significant, trivia]
      rw [unchanged] at same
      rw [next_trivia trivia, Matcher.push]
      obtain ⟨quiet, reached⟩ := ih positive bounded same
      refine ⟨quiet, ?_⟩
      rw [reached, List.append_assoc, List.singleton_append]
    · have plain := Bool.eq_false_iff.mpr trivia
      have kept : Token.significant (token :: tokens) = token :: Token.significant tokens := by
        simp [Token.significant, plain]
      rw [kept] at same
      obtain ⟨expected, others, first, rest, split⟩ := List.forall₂_cons_left_iff.mp same
      have found : pattern.tokens[matched]? = some expected := by
        rw [← List.head?_drop, split]
        rfl
      have further : pattern.tokens.drop (matched + 1) = others := by
        rw [← List.drop_drop, split]
        rfl
      obtain ⟨inside, _⟩ := List.getElem?_eq_some_iff.mp found
      rw [next_same plain found first, if_neg (Nat.ne_of_gt positive)]
      obtain ⟨quiet, reached⟩ := ih (Nat.succ_pos matched) inside (further ▸ rest)
      refine ⟨quiet, ?_⟩
      rw [reached, List.append_assoc, List.singleton_append]

/-- A lead completes a match where none is under way. -/
theorem searching_lead {pattern : Pattern} {lead : List Token} (isLead : IsLead pattern.tokens lead)
    (read : List Token) :
    (searching ⟨0, read⟩).finished pattern lead = [] ∧
      (searching ⟨0, read⟩).after pattern lead = searching ⟨pattern.length, lead⟩ := by
  obtain ⟨token, tokens, rfl, plain⟩ := isLead.starts
  have same := isLead.same
  have kept : Token.significant (token :: tokens) = token :: Token.significant tokens := by
    simp [Token.significant, plain]
  rw [kept] at same
  obtain ⟨expected, others, first, rest, split⟩ := List.forall₂_cons_left_iff.mp same
  have found : pattern.tokens[0]? = some expected := by
    rw [split]
    rfl
  have further : pattern.tokens.drop 1 = others := by
    rw [split]
    rfl
  rw [finished_searching, after_cons, next_same plain found first, if_pos rfl]
  exact searching_completes Nat.one_pos (Nat.le_of_succ_le pattern.two_le_length)
    (further ▸ rest)

/-- Where nothing is matched, trivia and tokens that are foreign to the pattern leave it so. -/
theorem searching_foreign {pattern : Pattern} {tokens : List Token}
    (foreign : ∀ token ∈ tokens, token.isTrivia = false → ∀ expected ∈ pattern.tokens,
      ¬ token.Same expected) (read : List Token) :
    (searching ⟨0, read⟩).finished pattern tokens = [] ∧
      ∃ later, (searching ⟨0, read⟩).after pattern tokens = searching ⟨0, later⟩ := by
  induction tokens generalizing read with
  | nil => exact ⟨rfl, read, rfl⟩
  | cons token tokens ih =>
    obtain ⟨here, further⟩ := List.forall_mem_cons.mp foreign
    rw [finished_searching, after_cons]
    by_cases trivia : token.isTrivia = true
    · rw [next_trivia trivia]
      exact ih further (read ++ [token])
    · have plain := Bool.eq_false_iff.mpr trivia
      have stays : ¬ ((Matcher.mk 0 read).isComplete pattern = true ∧ token = Token.openParen) :=
        fun opens => absurd (Matcher.matched_pos opens.1) (Nat.lt_irrefl 0)
      rw [next_feed plain stays]
      rcases Matcher.feed_cases pattern 0 token with
        ends | ⟨expected, member, _, same, _⟩ | ⟨_, _, impossible, _⟩
      · rw [ends]
        exact ih further (read ++ [token])
      · exact absurd same (here plain expected member)
      · exact absurd impossible (Nat.lt_irrefl 0)

/-- A stream that does not end inside a call ends in a search. -/
theorem after_of_closed {pattern : Pattern} {stream : List Token}
    (closed : ∀ tokens, Call.unclosed tokens ∉ calls pattern stream) :
    ∃ matcher, start.after pattern stream = searching matcher ∧
      calls pattern stream = start.finished pattern stream := by
  rw [calls_eq] at closed ⊢
  cases reached : start.after pattern stream with
  | searching matcher => exact ⟨matcher, rfl, List.append_nil _⟩
  | capturing capture =>
    rw [reached] at closed
    exact absurd (List.mem_append_right _ (List.mem_singleton.mpr rfl)) (closed _)

end Progress

/-- **A call behind a foreign token is found**, whatever matches are left unfinished before it, and
the calls before and behind it are those of the streams on either side. -/
theorem calls_append_call {pattern : Pattern} {before lead arguments : List Token} {separator : Token}
    (closed : ∀ tokens, Call.unclosed tokens ∉ calls pattern before)
    (plain : separator.isTrivia = false) (other : separator ≠ Token.openParen)
    (foreign : ∀ expected ∈ pattern.tokens, ¬ separator.Same expected)
    (isLead : IsLead pattern.tokens lead) (enclosed : Enclosed arguments) (rest : List Token) :
    calls pattern (before ++ separator ::
        (lead ++ Token.openParen :: (arguments ++ Token.closeParen :: rest))) =
      calls pattern before ++
        .closed (lead ++ Token.openParen :: (arguments ++ [Token.closeParen])) arguments ::
          calls pattern rest := by
  obtain ⟨matcher, reached, finished⟩ := Progress.after_of_closed closed
  obtain ⟨read, separated⟩ := Progress.next_foreign matcher plain other foreign
  obtain ⟨quiet, complete⟩ := Progress.searching_lead isLead read
  obtain ⟨found, restarted⟩ := Progress.capturing_closed pattern lead rest enclosed
  have opened : (Progress.searching ⟨pattern.length, lead⟩).next pattern Token.openParen =
      .capturing (Capture.new lead) := Progress.next_open (decide_eq_true rfl)
  rw [finished, calls_eq, calls_eq pattern rest, Progress.finished_append, Progress.after_append,
    reached, Progress.finished_searching, Progress.after_cons, separated, Progress.finished_append,
    Progress.after_append, quiet, complete, Progress.finished_searching, Progress.after_cons, opened,
    found, restarted]
  simp

/-- **A call at the start of a stream is found**, and the others are those of what comes behind it. -/
theorem calls_call {pattern : Pattern} {lead arguments : List Token}
    (isLead : IsLead pattern.tokens lead) (enclosed : Enclosed arguments) (rest : List Token) :
    calls pattern (lead ++ Token.openParen :: (arguments ++ Token.closeParen :: rest)) =
      .closed (lead ++ Token.openParen :: (arguments ++ [Token.closeParen])) arguments ::
        calls pattern rest := by
  obtain ⟨quiet, complete⟩ := Progress.searching_lead isLead []
  obtain ⟨found, restarted⟩ := Progress.capturing_closed pattern lead rest enclosed
  have opened : (Progress.searching ⟨pattern.length, lead⟩).next pattern Token.openParen =
      .capturing (Capture.new lead) := Progress.next_open (decide_eq_true rfl)
  have start : Progress.start = .searching ⟨0, []⟩ := rfl
  rw [calls_eq, calls_eq pattern rest, start, Progress.finished_append, Progress.after_append, quiet,
    complete, Progress.finished_searching, Progress.after_cons, opened, found, restarted]
  rfl

/-- **Tokens that are foreign to the pattern are passed over**, and so are trivia. -/
theorem calls_foreign_append {pattern : Pattern} {before : List Token}
    (foreign : ∀ token ∈ before, token.isTrivia = false → ∀ expected ∈ pattern.tokens,
      ¬ token.Same expected) (stream : List Token) :
    calls pattern (before ++ stream) = calls pattern stream := by
  obtain ⟨quiet, later, reached⟩ := Progress.searching_foreign foreign []
  have start : Progress.start = .searching ⟨0, []⟩ := rfl
  -- What has been read does not count as long as nothing is matched.
  have shows : Phase.start.Shows stream 0 (.searching ⟨0, later⟩) :=
    ⟨rfl, fun impossible => absurd impossible (Nat.lt_irrefl 0)⟩
  have fresh : calls pattern stream = (Progress.searching ⟨0, later⟩).finished pattern stream ++
      ((Progress.searching ⟨0, later⟩).after pattern stream).pending := callsFrom_eq shows rfl
  rw [calls_eq, fresh, start, Progress.finished_append, Progress.after_append, quiet, reached,
    List.nil_append]

/-- A lead has at least as many tokens as it has to match. -/
theorem IsLead.length_le {expected lead : List Token} (isLead : IsLead expected lead) :
    expected.length ≤ lead.length := by
  rw [← isLead.same.length_eq]
  exact List.length_filter_le _ _

/-- A stream that is no longer than the pattern holds no call. -/
theorem calls_of_length_le {pattern : Pattern} {stream : List Token}
    (short : stream.length ≤ pattern.length) : calls pattern stream = [] := by
  rcases calls_cases pattern stream with
    none | ⟨before, lead, arguments, split, isLead, _⟩ |
      ⟨before, lead, arguments, rest, split, isLead, _⟩
  · exact none
  · have long : pattern.length ≤ lead.length := isLead.length_le
    rw [split, List.length_append, List.length_append, List.length_cons] at short
    omega
  · have long : pattern.length ≤ lead.length := isLead.length_le
    rw [split, List.length_append, List.length_append, List.length_cons] at short
    omega

/-! ### The pattern `->translate` -/

/-- The tokens `->` and `translate` on a line. -/
def arrowTranslateAt (line : Int) : List Token :=
  [.lexeme Kind.operator "->" line, .lexeme ⟨"name"⟩ "translate" line]

/-- The pattern of `->translate`. -/
def arrowTranslate : Pattern where
  tokens := arrowTranslateAt 1
  two_le_length := by decide

end MessageHarvest
