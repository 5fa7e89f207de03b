/-
**Finding calls without positions.**

The calls of a stream are found with positions: the matcher keeps the position of the first token of
a match, and the tokens of a call are cut out of the stream when it ends. Here the positions are
replaced by the tokens themselves. What has been read is then all that a search depends on, so that
a stream may be read piece by piece.

* `Matcher.feed_cases` — what one token does to a match, whatever the positions are.
* `Progress` — the state of a search that keeps tokens in place of positions.
* `calls_eq` — the calls of a stream are those found by reading it token by token.
-/

import Mathlib.Data.List.Basic
import MessageHarvest.Call
import MessageHarvest.Proofs.Matching

namespace MessageHarvest

/-! ### One step of a matcher -/

/-- **What a token does to a match**, whatever the positions are: it ends the match, starts a new one
or continues the one that is there. -/
theorem Matcher.feed_cases (pattern : Pattern) (matched : Nat) (token : Token) :
    (∀ {Position : Type} (start position : Position),
      (Matcher.mk matched start).feed pattern token position = ⟨0, start⟩) ∨
    (∃ expected ∈ pattern.tokens, pattern.tokens.take 1 = [expected] ∧ token.Same expected ∧
      ∀ {Position : Type} (start position : Position),
        (Matcher.mk matched start).feed pattern token position = ⟨1, position⟩) ∨
    ∃ expected ∈ pattern.tokens, 0 < matched ∧
      pattern.tokens.take (matched + 1) = pattern.tokens.take matched ++ [expected] ∧
      token.Same expected ∧
      ∀ {Position : Type} (start position : Position),
        (Matcher.mk matched start).feed pattern token position = ⟨matched + 1, start⟩ := by
  -- The start of a match has no part in which token of the pattern is asked for.
  cases asks : pattern.tokens[(Matcher.mk matched ()).place pattern]? with
  | none =>
    refine Or.inl fun start position => ?_
    have asked : pattern.tokens[(Matcher.mk matched start).place pattern]? = none := asks
    rw [feed_eq_advance]
    unfold advance
    rw [asked]
    rfl
  | some expected =>
    have fed {Position : Type} (start position : Position) :=
      feed_eq (show pattern.tokens[(Matcher.mk matched start).place pattern]? = some expected from asks)
        token position
    by_cases same : token.Same expected
    · by_cases fresh : (Matcher.mk matched ()).place pattern = 0
      · rw [fresh] at asks
        refine Or.inr (Or.inl ⟨expected, List.mem_of_getElem? asks, ?_, same, fun start position => ?_⟩)
        · rw [List.take_add_one, asks]
          rfl
        · have first : (Matcher.mk matched start).place pattern = 0 := fresh
          rw [fed, if_pos same, first]
          rfl
      · have continues := place_of_ne_zero fresh
        rw [continues] at asks fresh
        refine Or.inr (Or.inr ⟨expected, List.mem_of_getElem? asks, Nat.pos_of_ne_zero fresh, ?_, same,
          fun start position => ?_⟩)
        · rw [List.take_add_one, asks]
          rfl
        · have further : (Matcher.mk matched start).place pattern = matched := continues
          rw [fed, if_pos same, further, if_neg fresh]
    · refine Or.inl fun start position => ?_
      rw [fed, if_neg same]

/-- A complete match has matched something. -/
theorem Matcher.matched_pos {Position : Type} {pattern : Pattern} {matcher : Matcher Position}
    (complete : matcher.isComplete pattern = true) : 0 < matcher.matched := by
  have matched : matcher.matched = pattern.length := of_decide_eq_true complete
  rw [matched]
  exact pattern.length_pos

/-! ### Reading token by token -/

/-- The matcher with a token put behind those read since its match started. -/
def Matcher.push (matcher : Matcher (List Token)) (token : Token) : Matcher (List Token) :=
  { matcher with start := matcher.start ++ [token] }

/-- Either the pattern is searched for, or the arguments of a call are read. In place of its position
the start of a match or call is kept as the tokens read from there on; those of a call end before
its parenthesis. -/
inductive Progress where
  | searching (matcher : Matcher (List Token))
  | capturing (capture : Capture (List Token))
deriving DecidableEq, Repr

namespace Progress

/-- Nothing has been read. -/
def start : Progress :=
  searching (Matcher.new [])

/-- The progress after one more token. -/
def next (pattern : Pattern) : Progress → Token → Progress
  | searching matcher, token =>
    if token.isTrivia then
      searching (matcher.push token)
    else if matcher.isComplete pattern ∧ token = Token.openParen then
      capturing (Capture.new matcher.start)
    else
      searching ((matcher.feed pattern token []).push token)
  | capturing capture, token =>
    if capture.isClosedBy token then start else capturing (capture.feed token)

/-- The call that a token closes, if it closes one. -/
def closedBy : Progress → Token → List Call
  | searching _, _ => []
  | capturing capture, token =>
    if capture.isClosedBy token then
      [.closed (capture.start ++ Token.openParen :: (capture.buffer.toList ++ [Token.closeParen]))
        capture.buffer.toList]
    else
      []

/-- The call that is open, if there is one. -/
def pending : Progress → List Call
  | searching _ => []
  | capturing capture => [.unclosed (capture.start ++ Token.openParen :: capture.buffer.toList)]

/-- The progress after a run of tokens. -/
def after (pattern : Pattern) (progress : Progress) (tokens : List Token) : Progress :=
  tokens.foldl (next pattern) progress

/-- The calls that a run of tokens closes. -/
def finished (pattern : Pattern) : Progress → List Token → List Call
  | _, [] => []
  | progress, token :: rest =>
    progress.closedBy token ++ finished pattern (progress.next pattern token) rest

variable {pattern : Pattern}

@[simp]
theorem after_nil (progress : Progress) : progress.after pattern [] = progress := rfl

@[simp]
theorem after_cons (progress : Progress) (token : Token) (rest : List Token) :
    progress.after pattern (token :: rest) = (progress.next pattern token).after pattern rest := rfl

theorem after_append (progress : Progress) (first second : List Token) :
    progress.after pattern (first ++ second) = (progress.after pattern first).after pattern second :=
  List.foldl_append

theorem finished_append (progress : Progress) (first second : List Token) :
    progress.finished pattern (first ++ second) =
      progress.finished pattern first ++ (progress.after pattern first).finished pattern second := by
  induction first generalizing progress with
  | nil => rfl
  | cons token first ih =>
    rw [List.cons_append, finished, finished, ih, after_cons, List.append_assoc]

variable {matcher : Matcher (List Token)} {capture : Capture (List Token)} {token : Token}

theorem next_trivia (trivia : token.isTrivia = true) :
    (searching matcher).next pattern token = searching (matcher.push token) :=
  if_pos trivia

theorem next_open (complete : matcher.isComplete pattern = true) :
    (searching matcher).next pattern Token.openParen = capturing (Capture.new matcher.start) := by
  rw [next, if_neg (by decide), if_pos ⟨complete, rfl⟩]

theorem next_feed (plain : token.isTrivia = false)
    (stays : ¬ (matcher.isComplete pattern = true ∧ token = Token.openParen)) :
    (searching matcher).next pattern token =
      searching ((matcher.feed pattern token []).push token) := by
  rw [next, if_neg (by rw [plain]; decide), if_neg stays]

theorem next_close (closes : capture.isClosedBy token = true) :
    (capturing capture).next pattern token = start :=
  if_pos closes

theorem next_capture (stays : capture.isClosedBy token = false) :
    (capturing capture).next pattern token = capturing (capture.feed token) := by
  rw [next, if_neg (by rw [stays]; decide)]

theorem finished_searching (rest : List Token) :
    (searching matcher).finished pattern (token :: rest) =
      ((searching matcher).next pattern token).finished pattern rest := rfl

end Progress

/-! ### Positions against tokens -/

/-- The phase and the progress say the same of the tokens before a position. -/
def Phase.Shows (stream : List Token) (position : Nat) : Phase → Progress → Prop
  | searching matcher, .searching seen =>
    seen.matched = matcher.matched ∧ (0 < matcher.matched →
      matcher.start ≤ position ∧ (stream.take position).drop matcher.start = seen.start)
  | capturing capture, .capturing seen =>
    seen.buffer = capture.buffer ∧ seen.depth = capture.depth ∧ capture.start ≤ position ∧
      (stream.take position).drop capture.start =
        seen.start ++ Token.openParen :: capture.buffer.toList
  | searching _, .capturing _ => False
  | capturing _, .searching _ => False

theorem Phase.shows_start (stream : List Token) (position : Nat) :
    Phase.start.Shows stream position Progress.start :=
  ⟨rfl, fun impossible => absurd impossible (Nat.lt_irrefl 0)⟩

section Positions

variable {stream rest : List Token} {position start : Nat} {token : Token}

/-- A slice that ends before a token grows by the token. -/
theorem drop_take_succ (here : stream.drop position = token :: rest) (before : start ≤ position) :
    (stream.take (position + 1)).drop start = (stream.take position).drop start ++ [token] := by
  have present : stream[position]? = some token := by
    rw [← List.head?_drop, here]
    rfl
  have inside : position < stream.length := by
    obtain ⟨inside, _⟩ := List.getElem?_eq_some_iff.mp present
    exact inside
  have reaches : start ≤ (stream.take position).length := by
    rw [List.length_take]
    omega
  rw [List.take_add_one, present, Option.toList_some, List.drop_append_of_le_length reaches]

/-- A token changes a matcher with positions and one with tokens in the same way. -/
theorem Phase.shows_feed (pattern : Pattern) (here : stream.drop position = token :: rest)
    {matcher : Matcher Nat} {seen : Matcher (List Token)}
    (shows : (searching matcher).Shows stream position (.searching seen)) :
    (searching (matcher.feed pattern token position)).Shows stream (position + 1)
      (.searching ((seen.feed pattern token []).push token)) := by
  obtain ⟨_, start⟩ := matcher
  obtain ⟨matched, seenStart⟩ := seen
  obtain ⟨rfl, slice⟩ := shows
  rcases Matcher.feed_cases pattern matched token with
    ends | ⟨expected, _, _, _, starts⟩ | ⟨expected, _, positive, _, _, continues⟩
  · rw [ends, ends]
    exact ⟨rfl, fun impossible => absurd impossible (Nat.lt_irrefl 0)⟩
  · rw [starts, starts]
    refine ⟨rfl, fun _ => ⟨Nat.le_succ position, ?_⟩⟩
    rw [drop_take_succ here (Nat.le_refl position), List.drop_take]
    simp [Matcher.push]
  · obtain ⟨before, same⟩ := slice positive
    rw [continues, continues]
    refine ⟨rfl, fun _ => ⟨Nat.le_succ_of_le before, ?_⟩⟩
    rw [drop_take_succ here before, same]
    rfl

/-- Trivia change nothing but the tokens read. -/
theorem Phase.shows_push (here : stream.drop position = token :: rest) {matcher : Matcher Nat}
    {seen : Matcher (List Token)}
    (shows : (searching matcher).Shows stream position (.searching seen)) :
    (searching matcher).Shows stream (position + 1) (.searching (seen.push token)) := by
  refine ⟨shows.1, ?_⟩
  intro positive
  obtain ⟨before, slice⟩ := shows.2 positive
  refine ⟨Nat.le_succ_of_le before, ?_⟩
  rw [drop_take_succ here before, slice]
  rfl

/-- A parenthesis behind a complete match opens a call that starts where the match did. -/
theorem Phase.shows_open {pattern : Pattern} (here : stream.drop position = Token.openParen :: rest)
    {matcher : Matcher Nat} {seen : Matcher (List Token)}
    (shows : (searching matcher).Shows stream position (.searching seen))
    (complete : matcher.isComplete pattern = true) :
    (capturing (Capture.new matcher.start)).Shows stream (position + 1)
      (.capturing (Capture.new seen.start)) := by
  obtain ⟨before, slice⟩ := shows.2 (Matcher.matched_pos complete)
  refine ⟨rfl, rfl, Nat.le_succ_of_le before, ?_⟩
  show (stream.take (position + 1)).drop matcher.start = _
  rw [drop_take_succ here before, slice]
  rfl

/-- A token that does not close a call is the next of its arguments. -/
theorem Phase.shows_capture (here : stream.drop position = token :: rest) {capture : Capture Nat}
    {seen : Capture (List Token)}
    (shows : (capturing capture).Shows stream position (.capturing seen))
    (stays : capture.isClosedBy token = false) :
    (capturing (capture.feed token)).Shows stream (position + 1)
      (.capturing (seen.feed token)) := by
  obtain ⟨buffer, depth, before, slice⟩ := shows
  have seenStays : seen.isClosedBy token = false := by
    unfold Capture.isClosedBy
    rw [depth]
    exact stays
  rw [Capture.feed, Capture.feed, stays, seenStays]
  refine ⟨?_, ?_, Nat.le_succ_of_le before, ?_⟩
  · show seen.buffer.push token = capture.buffer.push token
    rw [buffer]
  · show seen.depthAfter token = capture.depthAfter token
    unfold Capture.depthAfter
    rw [depth]
  · show (stream.take (position + 1)).drop capture.start =
      seen.start ++ Token.openParen :: (capture.buffer.push token).toList
    rw [drop_take_succ here before, slice, Array.toList_push, List.append_assoc, List.cons_append]

end Positions

/-- **Reading with positions finds what reading with tokens finds.** -/
theorem callsFrom_eq {pattern : Pattern} {stream rest : List Token} {position : Nat} {phase : Phase}
    {progress : Progress} (shows : phase.Shows stream position progress)
    (here : stream.drop position = rest) :
    callsFrom pattern stream phase position rest =
      progress.finished pattern rest ++ (progress.after pattern rest).pending := by
  -- What the two sides have read so far is carried by `Shows`; the induction is on what is left.
  induction rest generalizing phase progress position with
  | nil =>
    have whole : stream.take position = stream := List.take_of_length_le (List.drop_eq_nil_iff.mp here)
    cases phase with
    | searching matcher =>
      cases progress with
      | searching seen => rfl
      | capturing seen => exact shows.elim
    | capturing capture =>
      cases progress with
      | searching seen => exact shows.elim
      | capturing seen =>
        obtain ⟨buffer, _, _, slice⟩ := shows
        rw [whole] at slice
        rw [callsFrom, slice, ← buffer]
        rfl
  | cons token rest ih =>
    have further : stream.drop (position + 1) = rest := by
      rw [← List.drop_drop, here]
      rfl
    cases phase with
    | searching matcher =>
      cases progress with
      | capturing seen => exact shows.elim
      | searching seen =>
        have sameComplete : seen.isComplete pattern = matcher.isComplete pattern := by
          unfold Matcher.isComplete
          rw [shows.1]
        rw [Progress.finished_searching, Progress.after_cons, callsFrom]
        by_cases trivia : token.isTrivia = true
        · rw [if_pos trivia, Progress.next_trivia trivia, ih (Phase.shows_push here shows) further]
        · rw [if_neg trivia]
          by_cases opens : matcher.isComplete pattern = true ∧ token = Token.openParen
          · obtain ⟨complete, rfl⟩ := opens
            rw [if_pos ⟨complete, rfl⟩, Progress.next_open (sameComplete.trans complete),
              ih (Phase.shows_open here shows complete) further]
          · rw [if_neg opens, Progress.next_feed (Bool.eq_false_iff.mpr trivia)
              (by rwa [sameComplete]), ih (Phase.shows_feed pattern here shows) further]
    | capturing capture =>
      cases progress with
      | searching seen => exact shows.elim
      | capturing seen =>
        have sameClosed : seen.isClosedBy token = capture.isClosedBy token := by
          unfold Capture.isClosedBy
          rw [shows.2.1]
        rw [callsFrom, Progress.finished, Progress.after_cons, Progress.closedBy, sameClosed]
        by_cases closes : capture.isClosedBy token = true
        · have closing : token = Token.closeParen :=
            of_decide_eq_true (Bool.and_eq_true_iff.mp closes).1
          obtain ⟨buffer, _, before, slice⟩ := shows
          rw [if_pos closes, if_pos closes, Progress.next_close (sameClosed.trans closes),
            ih (Phase.shows_start stream _) further, drop_take_succ here before, slice, buffer, closing]
          simp
        · have stays := Bool.eq_false_iff.mpr closes
          rw [if_neg closes, if_neg closes, Progress.next_capture (sameClosed.trans stays),
            ih (Phase.shows_capture here shows stays) further, List.nil_append]

/-- The calls of a stream are found by reading it token by token. -/
theorem calls_eq (pattern : Pattern) (stream : List Token) :
    calls pattern stream = Progress.start.finished pattern stream ++
      (Progress.start.after pattern stream).pending :=
  callsFrom_eq (Phase.shows_start stream 0) rfl

end MessageHarvest
