/-
**Literal values.**

A group of tokens is a literal if it starts with a constant string. Further strings and numbers may
be joined to it by dots, and the first token that is not a dot ends the literal, whatever comes
after it. A dot that is not followed by a string or a number makes the group no literal.

* `stripQuotes` — the body of a string literal.
* `Literal.value?` — the text that a group of tokens denotes, if it is a literal.
-/

import MessageHarvest.Literal.Escape
import MessageHarvest.Token

namespace MessageHarvest

/-- The body of a string literal: without the letter that marks a binary string, if there is one,
and without the first and the last of the other characters. -/
def stripQuotes (text : String) : String :=
  let characters := text.toList
  let literal :=
    match characters with
    | 'b' :: rest => rest
    | 'B' :: rest => rest
    | _ => characters
  String.ofList (literal.drop 1).dropLast

namespace Literal

/-- The value of a string literal. -/
def stringValue (text : String) : String :=
  unescape (stripQuotes text)

/-- The value of a token that may be joined by a dot: a string, or a number as it is written. -/
def operandValue? (token : Token) : Option String :=
  if token.isStringLiteral then some (stringValue token.text)
  else if token.isNumberLiteral then some token.text
  else none

/-- The value of the operands joined by dots at the head of a stream without trivia. -/
def joinedValue? : List Token → Option String
  | [] => some ""
  | first :: rest =>
    if first = Token.dot then
      match rest with
      | [] => none
      | operand :: rest => do
        let value ← operandValue? operand
        let others ← joinedValue? rest
        return value ++ others
    else
      some ""

/-- The text that a group of tokens denotes, if the group is a literal. -/
def value? (group : List Token) : Option String :=
  match Token.significant group with
  | [] => none
  | first :: rest =>
    if first.isStringLiteral then
      (joinedValue? rest).map (stringValue first.text ++ ·)
    else
      none

end Literal

end MessageHarvest
