/-
**Tokens.**

A token is a piece of punctuation, or a lexeme: a text with the kind a tokeniser gave it and the
line it starts on. A few kinds have a meaning here (blanks and comments are trivia, strings and
numbers are literals); every other kind is only compared.

The texts of tokens and the names of kinds are made of characters. Lone halves of surrogate pairs,
which source text may hold (`SourceText`), cannot occur in them, so that nothing is said here about a
tokeniser that puts them into its tokens.

* `Token.Same` — punctuation with the same text, or lexemes with the same kind and text: the lines
  do not count.
* `Token.significant` — a stream without its trivia.
* `Token.source`, `Token.firstLine?` — the text that a stream spells and the line of its first
  lexeme.
-/

namespace MessageHarvest

/-- The kind of a lexeme, by its name. -/
structure Kind where
  name : String
deriving DecidableEq, Repr

namespace Kind

/-- The tag that opens code inside a page. -/
def openTag : Kind := ⟨"open_tag"⟩

/-- Blanks between other tokens. -/
def whitespace : Kind := ⟨"whitespace"⟩

/-- A comment. -/
def comment : Kind := ⟨"comment"⟩

/-- A string literal without embedded expressions. -/
def string : Kind := ⟨"string"⟩

/-- A string literal with embedded expressions. -/
def interpolatedString : Kind := ⟨"interpolated_string"⟩

/-- An integer literal. -/
def integer : Kind := ⟨"integer"⟩

/-- A floating-point literal. -/
def float : Kind := ⟨"float"⟩

/-- A variable with its sigil. -/
def variableName : Kind := ⟨"variable"⟩

/-- A reserved word. -/
def keyword : Kind := ⟨"keyword"⟩

/-- An operator of more than one character. -/
def operator : Kind := ⟨"operator"⟩

/-- Text of the page outside code. -/
def inlineHtml : Kind := ⟨"inline_html"⟩

/-- A multi-line string with embedded expressions. -/
def heredoc : Kind := ⟨"heredoc"⟩

/-- A multi-line string without embedded expressions. -/
def nowdoc : Kind := ⟨"nowdoc"⟩

/-- A kind that carries no meaning of its own. -/
def isTrivia (kind : Kind) : Bool :=
  kind = whitespace || kind = comment

/-- A kind of number literals. -/
def isNumber (kind : Kind) : Bool :=
  kind = integer || kind = float

end Kind

/-- A token of a stream. Lines are counted from one by most tokenisers, but any integer may occur.
-/
inductive Token where
  | punctuation (text : String)
  | lexeme (kind : Kind) (text : String) (line : Int)
deriving DecidableEq, Repr

namespace Token

/-- The text that a token spells. -/
def text : Token → String
  | punctuation text => text
  | lexeme _ text _ => text

/-- The line of a lexeme. Punctuation carries none. -/
def line? : Token → Option Int
  | punctuation _ => none
  | lexeme _ _ line => some line

/-- Blanks and comments. -/
def isTrivia : Token → Bool
  | punctuation _ => false
  | lexeme kind _ _ => kind.isTrivia

/-- A constant string. -/
def isStringLiteral : Token → Bool
  | punctuation _ => false
  | lexeme kind _ _ => kind = Kind.string

/-- An integer or a floating-point number. -/
def isNumberLiteral : Token → Bool
  | punctuation _ => false
  | lexeme kind _ _ => kind.isNumber

/-- Agreement of two tokens up to their lines. -/
def Same : Token → Token → Prop
  | punctuation first, punctuation second => first = second
  | lexeme firstKind firstText _, lexeme secondKind secondText _ =>
    firstKind = secondKind ∧ firstText = secondText
  | punctuation _, lexeme _ _ _ => False
  | lexeme _ _ _, punctuation _ => False

instance : DecidableRel Same
  | punctuation first, punctuation second => inferInstanceAs (Decidable (first = second))
  | lexeme firstKind firstText _, lexeme secondKind secondText _ =>
    inferInstanceAs (Decidable (firstKind = secondKind ∧ firstText = secondText))
  | punctuation _, lexeme _ _ _ => inferInstanceAs (Decidable False)
  | lexeme _ _ _, punctuation _ => inferInstanceAs (Decidable False)

/-- A stream without its trivia. -/
def significant (tokens : List Token) : List Token :=
  tokens.filter fun token => !token.isTrivia

/-- The text that a stream spells, trivia included. -/
def source (tokens : List Token) : String :=
  String.join (tokens.map text)

/-- The line of the first lexeme of a stream, be it trivia or not. -/
def firstLine? (tokens : List Token) : Option Int :=
  tokens.findSome? line?

/-- The comma between two arguments. -/
def comma : Token := punctuation ","

/-- The dot that joins two literals. -/
def dot : Token := punctuation "."

/-- The parenthesis that opens a list of arguments. -/
def openParen : Token := punctuation "("

/-- The parenthesis that closes a list of arguments. -/
def closeParen : Token := punctuation ")"

/-! ### Agreement is an equivalence -/

@[refl]
theorem Same.refl (token : Token) : Same token token := by
  cases token <;> simp [Same]

@[symm]
theorem Same.symm {first second : Token} (same : Same first second) : Same second first := by
  cases first <;> cases second <;> simp_all [Same]

theorem Same.trans {first second third : Token} (left : Same first second)
    (right : Same second third) : Same first third := by
  cases first <;> cases second <;> cases third <;> simp_all [Same]

end Token

end MessageHarvest
