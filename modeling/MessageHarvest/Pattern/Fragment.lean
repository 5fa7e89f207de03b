/-
**Patterns from a fragment of source.**

A pattern is written as the fragment of source that stands before the parenthesis, as in
`->translate`. The fragment is tokenised inside a complete call, since a tokeniser may see a token
only where one is allowed: behind the tag that opens code, behind a receiver unless the fragment
stands alone, and in front of an empty list of arguments. The pattern is then made of the
significant tokens that cover the fragment.

* `tokensBetween?` — the tokens that cover a range of a stream's text, unless one of them crosses an
  end of the range.
* `embedded`, `selection?` — the source in which a fragment is tokenised, and the tokens that cover
  the fragment there.
* `Pattern.compile` — the pattern of a fragment.
-/

import MessageHarvest.Pattern
import MessageHarvest.Text.Letter
import MessageHarvest.Tokeniser

namespace MessageHarvest

/-- The tag that opens code. -/
def openingTag : String := "<?php "

/-- A receiver for a fragment that does not stand alone. -/
def placeholderReceiver : String := "$_"

/-- An empty list of arguments, and the end of the statement. -/
def callEnding : String := "();"

/-- The code point can start an expression, so that what it starts needs no receiver. -/
def CodePoint.standsAlone : CodePoint → Bool
  | character value => Text.isLetter value || value = '$' || value = '_' || value = '\\'
  | surrogate _ => false

/-- The source in front of a fragment. -/
def openingOf (fragment : SourceText) (nonempty : fragment ≠ []) : SourceText :=
  SourceText.ofString
    (if (fragment.head nonempty).standsAlone then openingTag else openingTag ++ placeholderReceiver)

/-- The source in which a fragment is tokenised. -/
def embedded (fragment : SourceText) (nonempty : fragment ≠ []) : SourceText :=
  openingOf fragment nonempty ++ fragment ++ SourceText.ofString callEnding

/-- The tokens of a stream that lie in the range of characters from `first` to `last`, where the
stream stands at an offset: none if a token crosses an end of the range, or if the stream ends
before the range does. -/
def tokensBetween? (first last : Nat) : (offset : Nat) → List Token → Option (List Token)
  | offset, [] => if offset < last then none else some []
  | offset, token :: rest =>
    let behind := offset + token.text.length
    if (offset < first ∧ first < behind) ∨ (offset < last ∧ last < behind) then
      none
    else
      (tokensBetween? first last behind rest).map fun tokens =>
        if first ≤ offset ∧ behind ≤ last then token :: tokens else tokens

/-- The tokens that are selected for a fragment, given those of the source in which it is tokenised. -/
def selection? (fragment : SourceText) (nonempty : fragment ≠ []) (tokens : List Token) :
    Option (List Token) :=
  tokensBetween? (openingOf fragment nonempty).length
    ((openingOf fragment nonempty).length + fragment.length) 0 tokens

/-- Why a fragment has no pattern: its tokens make none, or it has no tokens. -/
inductive CompileError (TokeniserError : Type) where
  | pattern (error : PatternError)
  | tokeniser (error : TokeniserError)
deriving DecidableEq, Repr

namespace Pattern

/-- The pattern of a fragment, given the tokens of the source in which it is tokenised. -/
def ofFragmentTokens (fragment : SourceText) (nonempty : fragment ≠ []) (tokens : List Token) :
    Except PatternError Pattern :=
  match selection? fragment nonempty tokens with
  | none => .error (.brokenToken fragment)
  | some selected => ofTokens (Token.significant selected)

/-- The pattern of a fragment of source. -/
def compile {Error : Type} (fragment : SourceText) (tokeniser : Tokeniser Error) :
    Logged (Except (CompileError Error) Pattern) :=
  if empty : fragment = [] then
    return .error (.pattern .emptyFragment)
  else do
    match ← tokeniser (embedded fragment empty) with
    | .error error => return .error (.tokeniser error)
    | .ok tokens => return (ofFragmentTokens fragment empty tokens).mapError .pattern

end Pattern

end MessageHarvest
