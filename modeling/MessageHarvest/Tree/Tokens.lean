/-
**Tokens of a syntax tree.**

The leaves of a tree become tokens, and the bytes that no leaf covers become blanks, so that a
well-formed tree loses nothing of its source. An anonymous leaf of one character is punctuation; a
longer one is a keyword if its kind is an identifier, and an operator otherwise.

Every slice of the source has to be valid UTF-8: a range that cuts a character in two makes the
whole source undecodable, and the first such range is reported.

* `Node.tokens` — the tokens of a tree over the bytes of a source.
* `Grammar.tokeniser` — the tokeniser of a grammar, which refuses source text with surrogates.
-/

import MessageHarvest.Text.Identifier
import MessageHarvest.Text.Quoted
import MessageHarvest.Tokeniser
import MessageHarvest.Tree

namespace MessageHarvest

/-- A range of bytes, from its first one up to the one behind its last. -/
structure ByteRange where
  first : Nat
  last : Nat
deriving DecidableEq, Repr

/-- Why a source has no tokens: surrogates occur in it, a range of its tree cuts a character in two,
or the grammar itself fails. -/
inductive TokeniseError (GrammarError : Type) where
  | unencodable (run : SurrogateRun)
  | undecodable (range : ByteRange)
  | grammar (error : GrammarError)
deriving DecidableEq, Repr

/-- The description of a run of surrogates: the surrogate itself if it stands alone, else the range
of positions. -/
def SurrogateRun.message (run : SurrogateRun) : String :=
  let last := run.position + run.others
  let position := run.position
  if run.others = 0 then
    let escape := String.ofList (Text.hexadecimalEscape (CodePoint.surrogate run.first).toNat)
    "Cannot encode source for tokenising: 'utf-8' codec can't encode character '" ++ escape ++
      s!"' in position {position}: surrogates not allowed"
  else
    "Cannot encode source for tokenising: 'utf-8' codec can't encode characters in position " ++
      s!"{position}-{last}: surrogates not allowed"

/-- The text of a range of bytes, cut off at the end of the source. -/
def slice (bytes : ByteArray) (first last : Nat) : Option String :=
  String.fromUTF8? (bytes.extract (min first bytes.size) (min last bytes.size))

/-- The text of a range of bytes, or the range itself if it cuts a character in two. -/
def decode (bytes : ByteArray) (first last : Nat) : Except ByteRange String :=
  match slice bytes first last with
  | none => .error { first, last }
  | some text => .ok text

namespace Node

/-- The token that a leaf with a text stands for. -/
def tokenOfText (node : Node) (text : String) : Token :=
  let line : Int := node.startRow + 1
  if node.isNamed then
    .lexeme (node.tokenKind?.getD ⟨node.kind⟩) text line
  else if text.length = 1 then
    .punctuation text
  else if Text.isIdentifier node.kind then
    .lexeme Kind.keyword text line
  else
    .lexeme Kind.operator text line

/-- The token that a leaf stands for. -/
def token (bytes : ByteArray) (node : Node) : Except ByteRange Token := do
  return node.tokenOfText (← decode bytes node.startByte node.endByte)

/-- The blanks that cover a range of bytes, if the range holds any. -/
def blanks (bytes : ByteArray) (first last : Nat) (line : Int) : Except ByteRange (List Token) :=
  if first < last then do
    return [.lexeme Kind.whitespace (← decode bytes first last) line]
  else
    return []

/-- The tokens of leaves and of the gaps between them, from an offset and its line on. -/
def tokensFrom (bytes : ByteArray) :
    (offset : Nat) → (line : Int) → List Node → Except ByteRange (List Token)
  | offset, line, [] => blanks bytes offset bytes.size line
  | offset, line, node :: rest => do
    let gap ← blanks bytes offset node.startByte line
    let token ← node.token bytes
    let others ← tokensFrom bytes node.endByte (node.endRow + 1) rest
    return gap ++ token :: others

/-- The tokens of a tree over the bytes of a source, or the first range that cuts a character in two.
-/
def tokens (bytes : ByteArray) (root : Node) : Except ByteRange (List Token) :=
  tokensFrom bytes 0 1 root.leaves

end Node

/-- A tree, and whether the grammar met errors in the source. -/
structure Parse where
  root : Node
  hasErrors : Bool
deriving Repr

/-- What turns a source into a tree, or fails with an error of its own. -/
abbrev Grammar (Error : Type) := String → Except Error Parse

/-- The tokeniser of a grammar. -/
def Grammar.tokeniser {Error : Type} (grammar : Grammar Error) :
    Tokeniser (TokeniseError Error) := fun source =>
  match source.encode with
  | .error run => return .error (.unencodable run)
  | .ok text =>
    match grammar text with
    | .error error => return .error (.grammar error)
    | .ok parse => do
      if parse.hasErrors then
        Logged.notify .syntaxErrors
      return (parse.root.tokens text.toUTF8).mapError .undecodable

end MessageHarvest
