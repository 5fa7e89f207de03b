/-
**Tokenisers.**

A tokeniser turns source text into a stream of tokens, or fails with an error of its own; it may
give notices on the way.
-/

import MessageHarvest.Notice
import MessageHarvest.Text.CodePoint
import MessageHarvest.Token

namespace MessageHarvest

/-- What turns source text into tokens. -/
abbrev Tokeniser (Error : Type) := SourceText → Logged (Except Error (List Token))

end MessageHarvest
