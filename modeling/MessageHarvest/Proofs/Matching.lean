/-
**Runs of a matcher.**

A matcher gives up at the first token that does not continue its match, and it does not try that token
as the start of another one. Where a match can begin thus depends on all tokens before it. The run of
a matcher is therefore cut at the beginning of its current attempt: before that place no attempt was
under way, and the tokens fed since then are those that it has matched.

* `Matcher.feed_eq` — what a token does, by the place of the pattern that it is compared with.
* `Matcher.exists_attempt` — a run ends with the tokens of its current attempt.
* `Matcher.isComplete_run_append_iff` — an occurrence of the pattern is found if no attempt is under way
  before it.
* `matcher_finds_fresh_occurrences` — what a matcher has matched after any run, and what it finds.
-/

import Mathlib.Data.List.DropRight
import Mathlib.Data.List.Forall2
import MessageHarvest.Pattern.Matcher

namespace MessageHarvest

theorem Pattern.length_pos (pattern : Pattern) : 0 < pattern.length :=
  Nat.lt_of_lt_of_le Nat.two_pos pattern.two_le_length

namespace Matcher

variable {Position : Type} {pattern : Pattern}

/-! ### One token -/

/-- The place of the pattern that the next token is compared with. -/
def place (matcher : Matcher Position) (pattern : Pattern) : Nat :=
  if matcher.isComplete pattern then 0 else matcher.matched

/-- The pattern is started anew if nothing of it has been matched, or all of it. -/
theorem place_eq_zero_iff {matcher : Matcher Position} :
    matcher.place pattern = 0 ↔ matcher.matched = 0 ∨ matcher.matched = pattern.length := by
  unfold place isComplete
  by_cases complete : matcher.matched = pattern.length
  · simp [complete]
  · simp [complete]

theorem place_of_ne_zero {matcher : Matcher Position} (underWay : matcher.place pattern ≠ 0) :
    matcher.place pattern = matcher.matched := by
  unfold place at underWay ⊢
  by_cases complete : matcher.isComplete pattern = true
  · exact absurd (if_pos complete) underWay
  · exact if_neg complete

theorem place_lt {matcher : Matcher Position} (bounded : matcher.matched ≤ pattern.length) :
    matcher.place pattern < pattern.length := by
  unfold place isComplete
  by_cases complete : matcher.matched = pattern.length
  · simpa [complete] using pattern.length_pos
  · simpa [complete] using Nat.lt_of_le_of_ne bounded complete

/-- The pattern has a token at the place that is asked for. -/
theorem exists_asked {matcher : Matcher Position} (bounded : matcher.matched ≤ pattern.length) :
    ∃ expected, pattern.tokens[matcher.place pattern]? = some expected :=
  ⟨_, List.getElem?_eq_getElem (place_lt bounded)⟩

/-- A token is compared at that place, whether the match before it was complete or not. -/
theorem feed_eq_advance (matcher : Matcher Position) (pattern : Pattern) (token : Token)
    (position : Position) :
    matcher.feed pattern token position =
      (Matcher.mk (matcher.place pattern) matcher.start).advance pattern token position := by
  unfold feed place
  by_cases complete : matcher.isComplete pattern = true
  · rw [if_pos complete, if_pos complete]
    rfl
  · rw [if_neg complete, if_neg complete]

/-- **What a token does to a match**, by the token of the pattern that it is compared with. -/
theorem feed_eq {matcher : Matcher Position} {expected : Token}
    (asks : pattern.tokens[matcher.place pattern]? = some expected) (token : Token)
    (position : Position) :
    matcher.feed pattern token position =
      if token.Same expected then
        { matched := matcher.place pattern + 1
          start := if matcher.place pattern = 0 then position else matcher.start }
      else
        { matched := 0, start := matcher.start } := by
  rw [feed_eq_advance]
  unfold advance
  rw [asks]
  rfl

/-! ### Runs -/

/-- A token is fed with its position, or the match is forgotten. -/
inductive Step (Position : Type) where
  | feed (token : Token) (position : Position)
  | reset
deriving DecidableEq, Repr

/-- The matcher after a step. -/
def step (pattern : Pattern) (matcher : Matcher Position) : Step Position → Matcher Position
  | .feed token position => matcher.feed pattern token position
  | .reset => matcher.reset

/-- A new matcher after a run of steps. -/
def run (pattern : Pattern) (origin : Position) (steps : List (Step Position)) : Matcher Position :=
  steps.foldl (step pattern) (new origin)

/-- The steps that feed the tokens of some entries. -/
def feeds (entries : List (Token × Position)) : List (Step Position) :=
  entries.map fun entry => .feed entry.1 entry.2

/-- What has been fed since the last reset, given what had been fed before a step. -/
def Step.fedAfter (fed : List (Token × Position)) : Step Position → List (Token × Position)
  | feed token position => fed ++ [(token, position)]
  | reset => []

/-- The tokens fed since the last reset, with their positions. -/
def fedSinceReset (steps : List (Step Position)) : List (Token × Position) :=
  steps.foldl Step.fedAfter []

/-- The tokens of the entries match the expected ones. -/
def Matches (entries : List (Token × Position)) (expected : List Token) : Prop :=
  List.Forall₂ (fun entry token => entry.1.Same token) entries expected

instance (entries : List (Token × Position)) (expected : List Token) :
    Decidable (Matches entries expected) :=
  inferInstanceAs (Decidable (List.Forall₂ (fun entry token => entry.1.Same token) entries expected))

@[simp]
theorem feeds_append (first second : List (Token × Position)) :
    feeds (first ++ second) = feeds first ++ feeds second :=
  List.map_append

@[simp]
theorem length_feeds (entries : List (Token × Position)) : (feeds entries).length = entries.length :=
  List.length_map _

theorem run_append (pattern : Pattern) (origin : Position) (first second : List (Step Position)) :
    run pattern origin (first ++ second) = second.foldl (step pattern) (run pattern origin first) :=
  List.foldl_append

theorem run_append_feed (pattern : Pattern) (origin : Position) (steps : List (Step Position))
    (token : Token) (position : Position) :
    run pattern origin (steps ++ feeds [(token, position)]) =
      (run pattern origin steps).feed pattern token position :=
  run_append pattern origin steps (feeds [(token, position)])

theorem fedSinceReset_append_feeds (steps : List (Step Position))
    (entries : List (Token × Position)) :
    fedSinceReset (steps ++ feeds entries) = fedSinceReset steps ++ entries := by
  induction entries generalizing steps with
  | nil => simp [feeds]
  | cons entry entries ih =>
    have once : fedSinceReset (steps ++ [.feed entry.1 entry.2]) = fedSinceReset steps ++ [entry] := by
      simp [fedSinceReset, Step.fedAfter]
    have further := ih (steps ++ [.feed entry.1 entry.2])
    rw [once, List.append_assoc, List.append_assoc] at further
    exact further

/-- A run ends with the tokens fed since the last reset. -/
theorem exists_append_fedSinceReset (steps : List (Step Position)) :
    ∃ earlier, steps = earlier ++ feeds (fedSinceReset steps) := by
  induction steps using List.reverseRecOn with
  | nil => exact ⟨[], rfl⟩
  | append_singleton steps last ih =>
    cases last with
    | feed token position =>
      obtain ⟨earlier, split⟩ := ih
      refine ⟨earlier, ?_⟩
      rw [show ([.feed token position] : List (Step Position)) = feeds [(token, position)] from rfl,
        fedSinceReset_append_feeds, feeds_append, ← List.append_assoc, ← split]
    | reset =>
      refine ⟨steps ++ [.reset], ?_⟩
      simp [fedSinceReset, Step.fedAfter, feeds]

/-- The last entries of a run, and the run before them. -/
theorem take_rtake_of_append (earlier : List (Step Position)) (entries : List (Token × Position)) :
    (earlier ++ feeds entries).take ((earlier ++ feeds entries).length - entries.length) = earlier ∧
      (fedSinceReset (earlier ++ feeds entries)).rtake entries.length = entries := by
  rw [fedSinceReset_append_feeds]
  constructor
  · simp
  · simp [List.rtake]

/-- A run is cut before the last of the tokens fed since the last reset. -/
theorem eq_take_append_feeds {steps : List (Step Position)} {count : Nat}
    (enough : count ≤ (fedSinceReset steps).length) :
    steps = steps.take (steps.length - count) ++ feeds ((fedSinceReset steps).rtake count) := by
  obtain ⟨earlier, split⟩ := exists_append_fedSinceReset steps
  have counted : ((fedSinceReset steps).rtake count).length = count := by
    simp only [List.rtake, List.length_drop]
    omega
  have cut : steps = (earlier ++ feeds ((fedSinceReset steps).rdrop count)) ++
      feeds ((fedSinceReset steps).rtake count) := by
    rw [List.append_assoc, ← feeds_append, List.rdrop, List.rtake, List.take_append_drop]
    exact split
  have before := (take_rtake_of_append (earlier ++ feeds ((fedSinceReset steps).rdrop count))
    ((fedSinceReset steps).rtake count)).1
  rw [← cut, counted] at before
  rw [before]
  exact cut

/-! ### Attempts -/

/-- After some steps no attempt was under way, and the tokens of the entries, which were fed next, are
those that have been matched since. -/
structure IsAttempt (pattern : Pattern) (origin : Position) (earlier : List (Step Position))
    (entries : List (Token × Position)) : Prop where
  fresh : (run pattern origin earlier).place pattern = 0
  matched : (run pattern origin (earlier ++ feeds entries)).matched = entries.length
  same : Matches entries (pattern.tokens.take entries.length)
  start : ∀ first ∈ entries.head?, (run pattern origin (earlier ++ feeds entries)).start = first.2

namespace IsAttempt

variable {origin : Position} {steps earlier : List (Step Position)}
  {entries : List (Token × Position)}

theorem length_le (attempt : IsAttempt pattern origin earlier entries) :
    entries.length ≤ pattern.length := by
  have counted := attempt.same.length_eq
  rw [List.length_take] at counted
  exact counted.trans_le (Nat.min_le_right _ _)

/-- Where nothing is matched, the attempt has not begun. -/
theorem none (forgets : (run pattern origin steps).matched = 0) :
    IsAttempt pattern origin steps [] where
  fresh := place_eq_zero_iff.mpr (Or.inl forgets)
  matched := by
    rw [show feeds [] = ([] : List (Step Position)) from rfl, List.append_nil]
    exact forgets
  same := List.Forall₂.nil
  start := nofun

/-- A token that the pattern begins with begins an attempt where none is under way. -/
theorem first {token expected : Token} (position : Position)
    (fresh : (run pattern origin steps).place pattern = 0)
    (asks : pattern.tokens[0]? = some expected) (same : token.Same expected) :
    IsAttempt pattern origin steps [(token, position)] := by
  have fed : run pattern origin (steps ++ feeds [(token, position)]) = ⟨1, position⟩ := by
    rw [run_append_feed, feed_eq (by rw [fresh]; exact asks), if_pos same, fresh]
    rfl
  refine ⟨fresh, ?_, ?_, ?_⟩
  · rw [fed]
    rfl
  · show Matches _ (pattern.tokens.take 1)
    rw [List.take_add_one, asks]
    exact List.Forall₂.cons same List.Forall₂.nil
  · rw [fed]
    rintro entry ⟨⟩
    rfl

/-- The token that the pattern asks for next continues an attempt that is under way. -/
theorem next {token expected : Token} (position : Position)
    (attempt : IsAttempt pattern origin earlier entries)
    (underWay : (run pattern origin (earlier ++ feeds entries)).place pattern ≠ 0)
    (asks : pattern.tokens[entries.length]? = some expected) (same : token.Same expected) :
    IsAttempt pattern origin earlier (entries ++ [(token, position)]) := by
  have place : (run pattern origin (earlier ++ feeds entries)).place pattern = entries.length :=
    (place_of_ne_zero underWay).trans attempt.matched
  have fed : run pattern origin (earlier ++ feeds (entries ++ [(token, position)])) =
      ⟨entries.length + 1, (run pattern origin (earlier ++ feeds entries)).start⟩ := by
    rw [feeds_append, ← List.append_assoc, run_append_feed, feed_eq (by rw [place]; exact asks),
      if_pos same, if_neg underWay, place]
  refine ⟨attempt.fresh, ?_, ?_, ?_⟩
  · rw [fed, List.length_append]
    rfl
  · rw [List.length_append, List.length_singleton, List.take_add_one, asks]
    exact List.rel_append attempt.same (List.Forall₂.cons same List.Forall₂.nil)
  · rw [fed]
    rw [place] at underWay
    cases entries with
    | nil => exact absurd rfl underWay
    | cons entry entries => exact attempt.start

end IsAttempt

/-- **A run ends with the tokens of its current attempt.** -/
theorem exists_attempt (pattern : Pattern) (origin : Position) (steps : List (Step Position)) :
    ∃ earlier entries, steps = earlier ++ feeds entries ∧
      IsAttempt pattern origin earlier entries := by
  -- The induction is on the last step: it ends the attempt, begins one or continues the one there is.
  induction steps using List.reverseRecOn with
  | nil => exact ⟨[], [], rfl, IsAttempt.none rfl⟩
  | append_singleton steps last ih =>
    have ends (forgets : (run pattern origin (steps ++ [last])).matched = 0) :
        ∃ earlier entries, steps ++ [last] = earlier ++ feeds entries ∧
          IsAttempt pattern origin earlier entries :=
      ⟨steps ++ [last], [], (List.append_nil _).symm, IsAttempt.none forgets⟩
    obtain ⟨earlier, entries, rfl, attempt⟩ := ih
    cases last with
    | reset =>
      apply ends
      rw [run_append]
      rfl
    | feed token position =>
      obtain ⟨expected, asks⟩ := exists_asked (attempt.matched.trans_le attempt.length_le)
      by_cases same : token.Same expected
      · by_cases fresh : (run pattern origin (earlier ++ feeds entries)).place pattern = 0
        · rw [fresh] at asks
          exact ⟨earlier ++ feeds entries, [(token, position)], rfl,
            IsAttempt.first position fresh asks same⟩
        · rw [place_of_ne_zero fresh, attempt.matched] at asks
          refine ⟨earlier, entries ++ [(token, position)], ?_, attempt.next position fresh asks same⟩
          rw [feeds_append, ← List.append_assoc]
          rfl
      · apply ends
        show (run pattern origin (_ ++ feeds [(token, position)])).matched = 0
        rw [run_append_feed, feed_eq asks, if_neg same]

/-! ### Occurrences of the pattern -/

/-- What is left of the pattern completes the match. -/
theorem matched_foldl_feeds {matcher : Matcher Position} {entries : List (Token × Position)}
    (inside : matcher.place pattern < pattern.length)
    (same : Matches entries (pattern.tokens.drop (matcher.place pattern))) :
    ((feeds entries).foldl (step pattern) matcher).matched = pattern.length := by
  induction entries generalizing matcher with
  | nil =>
    have all := List.drop_eq_nil_iff.mp (List.forall₂_nil_left_iff.mp same)
    exact absurd inside (Nat.not_lt_of_le all)
  | cons entry entries ih =>
    obtain ⟨expected, others, first, rest, split⟩ := List.forall₂_cons_left_iff.mp same
    have asks : pattern.tokens[matcher.place pattern]? = some expected := by
      rw [← List.head?_drop, split]
      rfl
    have further : pattern.tokens.drop (matcher.place pattern + 1) = others := by
      rw [← List.drop_drop, split]
      rfl
    have fed := feed_eq asks entry.1 entry.2
    rw [if_pos first] at fed
    show ((feeds entries).foldl (step pattern) (matcher.feed pattern entry.1 entry.2)).matched = _
    by_cases last : matcher.place pattern + 1 = pattern.length
    · have none : others = [] := by
        rw [← further, last]
        exact List.drop_length
      subst none
      rw [List.forall₂_nil_right_iff.mp rest, fed]
      exact last
    · have place : (matcher.feed pattern entry.1 entry.2).place pattern = matcher.place pattern + 1 := by
        rw [fed]
        exact if_neg (by simpa [isComplete] using last)
      apply ih
      · omega
      · rw [place, further]
        exact rest

/-- **An occurrence of the pattern is found if no attempt is under way before it**, and only then. -/
theorem isComplete_run_append_iff (origin : Position) (steps : List (Step Position))
    {occurrence : List (Token × Position)} (same : Matches occurrence pattern.tokens) :
    (run pattern origin (steps ++ feeds occurrence)).isComplete pattern = true ↔
      (run pattern origin steps).place pattern = 0 := by
  constructor
  · intro complete
    obtain ⟨earlier, entries, split, attempt⟩ :=
      exists_attempt pattern origin (steps ++ feeds occurrence)
    have matched : entries.length = occurrence.length := by
      rw [← attempt.matched, ← split, same.length_eq]
      exact of_decide_eq_true complete
    have cut : steps = earlier := (List.append_inj' split (by simp [matched])).1
    rw [cut]
    exact attempt.fresh
  · intro fresh
    rw [run_append]
    apply decide_eq_true
    apply matched_foldl_feeds
    · rw [fresh]
      exact pattern.length_pos
    · rw [fresh]
      exact same

/-- A token that is foreign to the pattern leaves no attempt under way. -/
theorem place_run_foreign (origin : Position) (steps : List (Step Position)) {token : Token}
    (foreign : ∀ expected ∈ pattern.tokens, ¬ token.Same expected) (position : Position) :
    (run pattern origin (steps ++ [.feed token position])).place pattern = 0 := by
  obtain ⟨earlier, entries, rfl, attempt⟩ := exists_attempt pattern origin steps
  obtain ⟨expected, asks⟩ := exists_asked (attempt.matched.trans_le attempt.length_le)
  rw [place_eq_zero_iff]
  left
  show (run pattern origin (_ ++ feeds [(token, position)])).matched = 0
  rw [run_append_feed, feed_eq asks, if_neg (foreign expected (List.mem_of_getElem? asks))]

/-- What a matcher has matched after a run of steps. -/
structure Tracks (pattern : Pattern) (steps : List (Step Position)) (matcher : Matcher Position) :
    Prop where
  bounded : matcher.matched ≤ pattern.length
  /-- The next token is compared with a token of the pattern. -/
  asks : ∃ expected, pattern.tokens[matcher.place pattern]? = some expected ∧
    ∀ token position, matcher.feed pattern token position =
      if token.Same expected then
        { matched := matcher.place pattern + 1
          start := if matcher.place pattern = 0 then position else matcher.start }
      else
        { matched := 0, start := matcher.start }
  /-- The tokens fed last match the first ones of the pattern. -/
  same : Matches ((fedSinceReset steps).rtake matcher.matched) (pattern.tokens.take matcher.matched)
  start : 0 < matcher.matched →
    ((fedSinceReset steps).rtake matcher.matched).head?.map Prod.snd = some matcher.start

theorem tracks_run (pattern : Pattern) (origin : Position) (steps : List (Step Position)) :
    Tracks pattern steps (run pattern origin steps) := by
  obtain ⟨earlier, entries, rfl, attempt⟩ := exists_attempt pattern origin steps
  have bounded := attempt.matched.trans_le attempt.length_le
  obtain ⟨expected, asks⟩ := exists_asked bounded
  have last := (take_rtake_of_append earlier entries).2
  refine ⟨bounded, ⟨expected, asks, feed_eq asks⟩, ?_, ?_⟩
  · rw [attempt.matched, last]
    exact attempt.same
  · rw [attempt.matched, last]
    intro positive
    cases entries with
    | nil => exact absurd positive (Nat.lt_irrefl 0)
    | cons entry entries => exact congrArg some (attempt.start entry rfl).symm

/-- The last tokens fed since the last reset match the pattern, and just before the first of them
nothing of the pattern had been matched, or all of it. -/
def EndsInOccurrence (pattern : Pattern) (origin : Position) (steps : List (Step Position)) : Prop :=
  pattern.length ≤ (fedSinceReset steps).length ∧
  Matches ((fedSinceReset steps).rtake pattern.length) pattern.tokens ∧
  ((run pattern origin (steps.take (steps.length - pattern.length))).matched = 0 ∨
    (run pattern origin (steps.take (steps.length - pattern.length))).matched = pattern.length)

theorem isComplete_run_iff (pattern : Pattern) (origin : Position) (steps : List (Step Position)) :
    (run pattern origin steps).isComplete pattern = true ↔ EndsInOccurrence pattern origin steps := by
  unfold EndsInOccurrence
  rw [← place_eq_zero_iff]
  constructor
  · intro complete
    have matched : (run pattern origin steps).matched = pattern.length := of_decide_eq_true complete
    have same := (tracks_run pattern origin steps).same
    rw [matched, show pattern.tokens.take pattern.length = pattern.tokens from List.take_length] at same
    have enough : pattern.length ≤ (fedSinceReset steps).length := by
      have counted := same.length_eq
      simp only [List.rtake, List.length_drop] at counted
      have positive := pattern.length_pos
      unfold Pattern.length at positive ⊢
      omega
    refine ⟨enough, same, ?_⟩
    rw [eq_take_append_feeds enough] at complete
    exact (isComplete_run_append_iff origin _ same).mp complete
  · rintro ⟨enough, same, fresh⟩
    rw [eq_take_append_feeds enough]
    exact (isComplete_run_append_iff origin _ same).mpr fresh

end Matcher

open Matcher in
/-- **A matcher finds the occurrences of the pattern that begin where no attempt is under way.** After
any run, what it has matched is what was fed last; it is complete exactly if the run ends in an
occurrence before which nothing had been matched, or all of the pattern. An occurrence is missed
exactly if it begins inside an attempt that is under way, so that one behind a foreign token is
found. -/
theorem matcher_finds_fresh_occurrences {Position : Type} (pattern : Pattern) (origin : Position)
    (steps : List (Step Position)) :
    Tracks pattern steps (run pattern origin steps) ∧
    ((run pattern origin steps).isComplete pattern = true ↔ EndsInOccurrence pattern origin steps) ∧
    ∀ occurrence, Matches occurrence pattern.tokens →
      ((run pattern origin (steps ++ feeds occurrence)).isComplete pattern = false ↔
        0 < (run pattern origin steps).matched ∧
          (run pattern origin steps).matched < pattern.length) ∧
      ∀ token position, (∀ expected ∈ pattern.tokens, ¬ token.Same expected) →
        (run pattern origin (steps ++ [.feed token position] ++ feeds occurrence)).isComplete pattern =
          true := by
  have tracks := tracks_run pattern origin steps
  refine ⟨tracks, isComplete_run_iff pattern origin steps, fun occurrence same => ⟨?_, ?_⟩⟩
  · rw [← Bool.not_eq_true, isComplete_run_append_iff origin steps same, place_eq_zero_iff, not_or,
      Nat.pos_iff_ne_zero]
    exact and_congr_right fun _ => (Nat.lt_iff_le_and_ne.trans (and_iff_right tracks.bounded)).symm
  · intro token position foreign
    exact (isComplete_run_append_iff origin _ same).mpr
      (place_run_foreign origin steps foreign position)

/-- The pattern `::t`, each colon a token. -/
def colons : Pattern where
  tokens := [.punctuation ":", .punctuation ":", .lexeme ⟨"name"⟩ "t" 1]
  two_le_length := by decide

/-- The tokens of `::t` at the positions four to six. -/
def colonEntries : List (Token × Int) :=
  [(.punctuation ":", 4), (.punctuation ":", 5), (.lexeme ⟨"name"⟩ "t" 7, 6)]

open Matcher in
/-- In `:::t` the pattern is missed, because it overlaps with itself; in `:;::t` it is found. -/
theorem third_colon_hides_pattern :
    Matches colonEntries colons.tokens ∧
    (run colons 0 [.feed (.punctuation ":") 3]).matched = 1 ∧
    (run colons 0 ([.feed (.punctuation ":") 3] ++ feeds colonEntries)).isComplete colons = false ∧
    (run colons 0 ([.feed (.punctuation ":") 2] ++ [.feed (.punctuation ";") 3] ++
      feeds colonEntries)).isComplete colons = true := by
  have same : Matches colonEntries colons.tokens := by decide
  obtain ⟨_, _, found⟩ :=
    matcher_finds_fresh_occurrences colons (0 : Int) [.feed (.punctuation ":") 3]
  obtain ⟨_, _, foundLater⟩ :=
    matcher_finds_fresh_occurrences colons (0 : Int) [.feed (.punctuation ":") 2]
  exact ⟨same, by decide, (found colonEntries same).1.mpr (by decide),
    (foundLater colonEntries same).2 _ _ (by decide)⟩

end MessageHarvest
