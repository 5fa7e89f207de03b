/-
**Quoted text in messages.**

A text is shown between single quotes, or between double quotes if it holds a single quote and no
double one. Inside, the backslash and the enclosing quote are escaped by a backslash, line feed,
carriage return and tab have their letters, and every other code point that is not printable is
written in hexadecimal with two, four or eight digits.
-/

import MessageHarvest.Text.CodePoint
import MessageHarvest.Text.Printable

namespace MessageHarvest.Text

/-- The lower-case hexadecimal digits of the last `width` places of a number. -/
def hexadecimal (number : Nat) : (width : Nat) → List Char
  | 0 => []
  | width + 1 => hexadecimal (number / 16) width ++ [Nat.digitChar (number % 16)]

/-- The escape of a code point that is not printable, with as few of two, four and eight digits as
its number needs. -/
def hexadecimalEscape (code : Nat) : List Char :=
  if code < 0x100 then '\\' :: 'x' :: hexadecimal code 2
  else if code < 0x10000 then '\\' :: 'u' :: hexadecimal code 4
  else '\\' :: 'U' :: hexadecimal code 8

/-- The quote that encloses a text. -/
def enclosingQuote (text : SourceText) : Char :=
  if text.contains (.character '\'') && !text.contains (.character '"') then '"' else '\''

/-- How one code point is shown between two quotes of a kind. -/
def quotedPoint (quote : Char) (point : CodePoint) : List Char :=
  match point with
  | .surrogate _ => hexadecimalEscape point.toNat
  | .character value =>
    if value = '\\' ∨ value = quote then ['\\', value]
    else if value = '\n' then ['\\', 'n']
    else if value = '\r' then ['\\', 'r']
    else if value = '\t' then ['\\', 't']
    else if isPrintable value.toNat then [value]
    else hexadecimalEscape value.toNat

/-- A text between its quotes. -/
def quoted (text : SourceText) : String :=
  let quote := enclosingQuote text
  String.ofList (quote :: text.flatMap (quotedPoint quote) ++ [quote])

end MessageHarvest.Text
