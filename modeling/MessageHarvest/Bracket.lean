/-
**Brackets.**

Parentheses, square brackets and braces are tracked by a stack of the brackets that are open. A
closing bracket takes the innermost open one off the stack; if that one is of another shape, or
nothing is open, the stack is invalid from then on. Tokens that are no brackets change nothing.
-/

import MessageHarvest.Token

namespace MessageHarvest

/-- The three shapes of brackets. -/
inductive Bracket where
  | round
  | square
  | curly
deriving DecidableEq, Repr

namespace Bracket

/-- The opening bracket of a shape. -/
def opener : Bracket → Token
  | round => Token.openParen
  | square => .punctuation "["
  | curly => .punctuation "\x7b"

/-- The closing bracket of a shape. -/
def closer : Bracket → Token
  | round => Token.closeParen
  | square => .punctuation "]"
  | curly => .punctuation "\x7d"

/-- All shapes. -/
def all : List Bracket := [round, square, curly]

/-- The shape that a token opens. -/
def opened? (token : Token) : Option Bracket :=
  all.find? fun shape => shape.opener = token

/-- The shape that a token closes. -/
def closed? (token : Token) : Option Bracket :=
  all.find? fun shape => shape.closer = token

end Bracket

/-- The brackets that are open, innermost first, and whether every closing bracket so far has met an
open one of its shape. -/
structure BracketStack where
  openers : List Bracket
  isValid : Bool
deriving DecidableEq, Repr

namespace BracketStack

/-- Nothing is open and nothing has gone wrong. -/
def empty : BracketStack where
  openers := []
  isValid := true

/-- Nothing is open. -/
def isEmpty (stack : BracketStack) : Bool :=
  stack.openers.isEmpty

/-- Nothing is open and nothing has gone wrong so far. -/
def isBalanced (stack : BracketStack) : Bool :=
  stack.isValid && stack.isEmpty

/-- The stack after a bracket of a shape has opened. -/
def push (stack : BracketStack) (shape : Bracket) : BracketStack :=
  { stack with openers := shape :: stack.openers }

/-- The stack after a bracket of a shape has closed. -/
def pop (stack : BracketStack) (shape : Bracket) : BracketStack :=
  match stack.openers with
  | [] => { stack with isValid := false }
  | innermost :: others =>
    { openers := others, isValid := stack.isValid && innermost = shape }

/-- The stack after one more token. -/
def feed (stack : BracketStack) (token : Token) : BracketStack :=
  match Bracket.opened? token, Bracket.closed? token with
  | some shape, _ => stack.push shape
  | none, some shape => stack.pop shape
  | none, none => stack

/-- The answer that is given when a token is fed: whether nothing has gone wrong so far. A lexeme is
answered at once, and punctuation after the stack has taken it in. -/
def answer (stack : BracketStack) : Token → Bool
  | .lexeme _ _ _ => stack.isValid
  | .punctuation text => (stack.feed (.punctuation text)).isValid

/-- A lexeme opens and closes nothing. -/
theorem feed_lexeme (stack : BracketStack) (kind : Kind) (text : String) (line : Int) :
    stack.feed (.lexeme kind text line) = stack := by
  simp [feed, Bracket.opened?, Bracket.closed?, Bracket.all, Bracket.opener, Bracket.closer,
    Token.openParen, Token.closeParen]

/-- Every token is answered by whether the stack is valid behind it. -/
theorem answer_eq (stack : BracketStack) (token : Token) :
    stack.answer token = (stack.feed token).isValid := by
  cases token with
  | punctuation text => rfl
  | lexeme kind text line => rw [feed_lexeme, answer]

end BracketStack

end MessageHarvest
