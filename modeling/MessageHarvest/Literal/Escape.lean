/-
**Escapes in string literals.**

Inside a literal a backslash starts an escape. The letters `n`, `t`, `r`, `a`, `v`, `b` and `f`
stand for control characters; `x` with one or two hexadecimal digits, and one to three octal digits,
stand for a byte; any other character stands for itself. A backslash at the very end is an ordinary
character.

Bytes that follow each other directly form a run. A run is read as UTF-8 if it is valid, and
otherwise byte for byte, each byte standing for the character of the same number.

* `Escape.pieces` — the characters and bytes that a text denotes, in order.
* `Escape.assemble` — the text of such pieces, run by run.
* `unescape` — both together.
-/

namespace MessageHarvest

namespace Escape

/-! ### Digits -/

/-- The value of a hexadecimal digit of either case. -/
def hexDigit? (digit : Char) : Option Nat :=
  if '0' ≤ digit ∧ digit ≤ '9' then some (digit.toNat - '0'.toNat)
  else if 'a' ≤ digit ∧ digit ≤ 'f' then some (digit.toNat - 'a'.toNat + 10)
  else if 'A' ≤ digit ∧ digit ≤ 'F' then some (digit.toNat - 'A'.toNat + 10)
  else none

/-- The value of an octal digit. -/
def octalDigit? (digit : Char) : Option Nat :=
  if '0' ≤ digit ∧ digit ≤ '7' then some (digit.toNat - '0'.toNat) else none

/-- The values of the digits at the head of a text, at most `limit` of them, and what follows. -/
def takeDigits (digit? : Char → Option Nat) : (limit : Nat) → List Char → List Nat × List Char
  | 0, text => ([], text)
  | _ + 1, [] => ([], [])
  | limit + 1, first :: rest =>
    match digit? first with
    | none => ([], first :: rest)
    | some value =>
      let taken := takeDigits digit? limit rest
      (value :: taken.1, taken.2)

/-- The number that digits denote in a base. -/
def numeral (base : Nat) (digits : List Nat) : Nat :=
  digits.foldl (fun number digit => base * number + digit) 0

/-! ### Pieces -/

/-- What one step of reading yields: a character, or a byte given by its number. -/
inductive Piece where
  | character (value : Char)
  | byte (value : UInt8)
deriving DecidableEq, Repr

/-- The character that an escaped letter stands for, if it is not part of a number. -/
def escapedCharacter (letter : Char) : Char :=
  match letter with
  | 'n' => '\n'
  | 't' => '\t'
  | 'r' => '\r'
  | 'a' => '\x07'
  | 'v' => '\x0b'
  | 'b' => '\x08'
  | 'f' => '\x0c'
  | other => other

/-- Reads the escape whose first character after the backslash is `lead`: its piece, and the text
behind it. A number beyond a byte keeps its low eight bits. -/
def readEscape (lead : Char) (rest : List Char) : Piece × List Char :=
  if lead = 'x' then
    match takeDigits hexDigit? 2 rest with
    | ([], _) => (.character 'x', rest)
    | (first :: others, behind) => (.byte (UInt8.ofNat (numeral 16 (first :: others))), behind)
  else
    match takeDigits octalDigit? 3 (lead :: rest) with
    | ([], _) => (.character (escapedCharacter lead), rest)
    | (first :: others, behind) => (.byte (UInt8.ofNat (numeral 8 (first :: others))), behind)

/-- Reading digits leaves no more text than there was. -/
theorem length_takeDigits_le (digit? : Char → Option Nat) (limit : Nat) (text : List Char) :
    (takeDigits digit? limit text).2.length ≤ text.length := by
  fun_induction takeDigits digit? limit text with
  | case1 => exact Nat.le_refl _
  | case2 => exact Nat.le_refl _
  | case3 => exact Nat.le_refl _
  | case4 _ _ _ _ _ _ ih => exact Nat.le_succ_of_le ih

/-- Reading at least one digit leaves less text than there was. -/
theorem length_takeDigits_lt (digit? : Char → Option Nat) (limit : Nat) (text : List Char)
    (some_digit : (takeDigits digit? limit text).1 ≠ []) :
    (takeDigits digit? limit text).2.length < text.length := by
  fun_cases takeDigits digit? limit text with
  | case1 => simp [takeDigits] at some_digit
  | case2 => simp [takeDigits] at some_digit
  | case3 _ _ _ none_digit => simp [takeDigits, none_digit] at some_digit
  | case4 limit _ rest _ is_digit taken =>
    exact Nat.lt_succ_of_le (length_takeDigits_le digit? limit rest)

/-- An escape leaves no more text than stood behind its first character. -/
theorem length_readEscape_le (lead : Char) (rest : List Char) :
    (readEscape lead rest).2.length ≤ rest.length := by
  unfold readEscape
  split
  · have shorter := length_takeDigits_le hexDigit? 2 rest
    split
    · exact Nat.le_refl _
    · rename_i taken
      simpa [taken] using shorter
  · split
    · exact Nat.le_refl _
    · rename_i taken
      have shorter := length_takeDigits_lt octalDigit? 3 (lead :: rest) (by simp [taken])
      simp only [taken, List.length_cons] at shorter
      exact Nat.le_of_lt_succ shorter

/-- The pieces that a text denotes, from left to right. -/
def pieces : List Char → List Piece
  | '\\' :: lead :: rest =>
    (readEscape lead rest).1 :: pieces (readEscape lead rest).2
  | first :: rest => .character first :: pieces rest
  | [] => []
termination_by text => text.length
decreasing_by
  · have shorter := length_readEscape_le lead rest
    simp only [List.length_cons]
    omega
  · simp

/-! ### Runs of bytes -/

/-- The characters of a run of bytes: as UTF-8 if the run is valid, else one character a byte. -/
def decodeRun (run : List UInt8) : List Char :=
  match String.fromUTF8? ⟨run.toArray⟩ with
  | some text => text.toList
  | none => run.map Char.ofUInt8

/-- The characters of pieces that follow a run of bytes not yet decoded. -/
def assembleAfter (run : List UInt8) : List Piece → List Char
  | [] => decodeRun run
  | .byte value :: rest => assembleAfter (run ++ [value]) rest
  | .character value :: rest => decodeRun run ++ value :: assembleAfter [] rest

/-- The characters of pieces, each maximal run of bytes decoded on its own. -/
def assemble (pieces : List Piece) : List Char :=
  assembleAfter [] pieces

end Escape

/-- The text that a text with escapes stands for. -/
def unescape (text : String) : String :=
  String.ofList (Escape.assemble (Escape.pieces text.toList))

end MessageHarvest
