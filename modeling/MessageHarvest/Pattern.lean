/-
**Patterns of translator calls.**

A pattern is the run of tokens that stands before the opening parenthesis of a translator call, as
in `->translate`. It holds at least two tokens, so that a plain name is never taken for a call.
-/

import MessageHarvest.Text.Quoted
import MessageHarvest.Token

namespace MessageHarvest

/-- Two or more tokens that announce a translator call. -/
structure Pattern where
  tokens : List Token
  two_le_length : 2 ≤ tokens.length

/-- Why tokens or a fragment of source make no pattern. -/
inductive PatternError where
  | emptyFragment
  | brokenToken (fragment : SourceText)
  | tooFewTokens (count : Nat)
deriving DecidableEq, Repr

namespace PatternError

/-- The message of an error. -/
def message : PatternError → String
  | emptyFragment => "string index out of range"
  | brokenToken fragment =>
    "Translator " ++ Text.quoted fragment ++ " does not split into whole tokens"
  | tooFewTokens count => s!"Translator pattern must contain at least 2 tokens, got {count}"

end PatternError

namespace Pattern

/-- The pattern of a run of tokens. -/
def ofTokens (tokens : List Token) : Except PatternError Pattern :=
  if two_le_length : 2 ≤ tokens.length then
    .ok { tokens, two_le_length }
  else
    .error (.tooFewTokens tokens.length)

/-- The number of tokens. -/
def length (pattern : Pattern) : Nat :=
  pattern.tokens.length

end Pattern

/-- A token as it is shown to a reader. -/
def Token.describe : Token → String
  | punctuation text => Text.quoted (SourceText.ofString text)
  | lexeme kind text line =>
    "Token(kind=" ++ Text.quoted (SourceText.ofString kind.name) ++
      ", text=" ++ Text.quoted (SourceText.ofString text) ++ s!", line={line})"

/-- A pattern as it is shown to a reader. -/
def Pattern.describe (pattern : Pattern) : String :=
  "TranslatorPattern([" ++ ", ".intercalate (pattern.tokens.map Token.describe) ++ "])"

end MessageHarvest
