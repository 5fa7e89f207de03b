/-
**Matching a pattern against a stream.**

The matcher counts how many tokens of the pattern the last tokens of a stream have matched. A token
that does not continue the match sets the count back to zero, and no shorter match is tried with it:
for the pattern `A B` the stream `A A B` holds no match. A complete match is forgotten as soon as
the next token is fed.

Positions in the stream are whatever the caller hands in with the tokens; the matcher only remembers
the one that came with the first token of the current match.
-/

import MessageHarvest.Pattern

namespace MessageHarvest

/-- How much of a pattern has been matched, and where the match started. -/
structure Matcher (Position : Type) where
  matched : Nat
  start : Position
deriving DecidableEq, Repr

namespace Matcher

variable {Position : Type}

/-- Nothing is matched; the start is any position. -/
def new (origin : Position) : Matcher Position where
  matched := 0
  start := origin

/-- The whole pattern has just been matched. -/
def isComplete (matcher : Matcher Position) (pattern : Pattern) : Bool :=
  matcher.matched = pattern.length

/-- Forgets a match, be it partial or complete. The start stays as it is. -/
def reset (matcher : Matcher Position) : Matcher Position :=
  { matcher with matched := 0 }

/-- Compares a token with the one that the pattern asks for next. -/
def advance (matcher : Matcher Position) (pattern : Pattern) (token : Token)
    (position : Position) : Matcher Position :=
  match pattern.tokens[matcher.matched]? with
  | none => matcher.reset
  | some expected =>
    if token.Same expected then
      { matched := matcher.matched + 1
        start := if matcher.matched = 0 then position else matcher.start }
    else
      matcher.reset

/-- The matcher after a significant token at a position. -/
def feed (matcher : Matcher Position) (pattern : Pattern) (token : Token)
    (position : Position) : Matcher Position :=
  if matcher.isComplete pattern then
    matcher.reset.advance pattern token position
  else
    matcher.advance pattern token position

end Matcher

end MessageHarvest
