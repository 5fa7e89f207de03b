/-
**Undoing escapes.**

A character can be written in several ways inside a literal: as it is, behind a backslash, by a letter
that stands for it, or by numbers for its bytes. Whatever way is chosen for each character of a text,
undoing the escapes gives the text back. A character that can neither be escaped by what stands
before it nor prolong an escape there separates the texts on its two sides: each is read on its own.

* `Escape.Writes` — the ways to write a character.
* `Escape.assemble_pieces_flatten` — a text is read back from what it has been written as.
* `Escape.pieces_append` — where a text with escapes may be cut in two.
* `unescape_undoes_writing` — the first of these facts for `unescape`.
* `unescape_separated` — plain text between two texts with escapes.
-/

import Mathlib.Data.List.Forall2
import MessageHarvest.Literal.Escape
import MessageHarvest.Proofs.Boundary

namespace MessageHarvest

namespace Escape

/-! ### Digits -/

/-- A property of every character, checked for those of one byte. -/
theorem forall_character {P : Char → Prop} (ascii : ∀ number < 0x80, P (Char.ofNat number))
    (beyond : ∀ character : Char, 0x80 ≤ character.toNat → P character) (character : Char) :
    P character := by
  by_cases small : character.toNat < 0x80
  · exact Char.ofNat_toNat character ▸ ascii character.toNat small
  · exact beyond character (Nat.le_of_not_lt small)

theorem not_le_of_beyond {character limit : Char} (beyond : 0x80 ≤ character.toNat)
    (ascii : limit.toNat < 0x80) : ¬ character ≤ limit := by
  rw [Char.le_def, UInt32.le_iff_toNat_le, Char.toNat_val, Char.toNat_val]
  omega

theorem hexDigit?_of_beyond {character : Char} (beyond : 0x80 ≤ character.toNat) :
    hexDigit? character = none := by
  rw [hexDigit?, if_neg, if_neg, if_neg]
  · exact fun range => not_le_of_beyond beyond (by decide) range.2
  · exact fun range => not_le_of_beyond beyond (by decide) range.2
  · exact fun range => not_le_of_beyond beyond (by decide) range.2

theorem octalDigit?_of_beyond {character : Char} (beyond : 0x80 ≤ character.toNat) :
    octalDigit? character = none :=
  if_neg fun range => not_le_of_beyond beyond (by decide) range.2

/-- What is no hexadecimal digit is no octal digit. -/
theorem octalDigit?_eq_none_of_hexDigit? {character : Char} :
    hexDigit? character = none → octalDigit? character = none :=
  forall_character (P := fun character => hexDigit? character = none → octalDigit? character = none)
    (by decide +kernel) (fun _ beyond _ => octalDigit?_of_beyond beyond) character

theorem hexDigit?_eq_none {character : Char} :
    character ∉ "0123456789abcdefABCDEF".toList → hexDigit? character = none :=
  forall_character
    (P := fun character => character ∉ "0123456789abcdefABCDEF".toList → hexDigit? character = none)
    (by decide +kernel) (fun _ beyond _ => hexDigit?_of_beyond beyond) character

theorem octalDigit?_eq_none {character : Char} :
    character ∉ "01234567".toList → octalDigit? character = none :=
  forall_character
    (P := fun character => character ∉ "01234567".toList → octalDigit? character = none)
    (by decide +kernel) (fun _ beyond _ => octalDigit?_of_beyond beyond) character

/-- The hexadecimal digits of a value, in either case. -/
theorem hexDigit?_digitChar {value : Nat} (small : value < 16) {digit : Char}
    (isDigit : digit = Nat.digitChar value ∨ digit = (Nat.digitChar value).toUpper) :
    hexDigit? digit = some value := by
  have digits : ∀ value < 16, hexDigit? (Nat.digitChar value) = some value ∧
      hexDigit? (Nat.digitChar value).toUpper = some value := by
    decide
  rcases isDigit with rfl | rfl
  · exact (digits value small).1
  · exact (digits value small).2

theorem octalDigit?_digitChar : ∀ value < 8, octalDigit? (Nat.digitChar value) = some value := by
  decide

/-- What stands behind digits is not read if it does not start with one. -/
theorem takeDigits_append (digit? : Char → Option Nat) (limit : Nat) (text : List Char)
    {more : List Char} (ends : ∀ next ∈ more.head?, digit? next = none) :
    takeDigits digit? limit (text ++ more) =
      ((takeDigits digit? limit text).1, (takeDigits digit? limit text).2 ++ more) := by
  fun_induction takeDigits digit? limit text with
  | case1 text => rw [takeDigits]
  | case2 limit =>
    cases more with
    | nil => rfl
    | cons next more =>
      rw [List.nil_append, takeDigits]
      simp only [ends next rfl]
  | case3 limit first rest noDigit =>
    rw [List.cons_append, takeDigits]
    simp only [noDigit]
  | case4 limit first rest value isDigit taken ih =>
    rw [List.cons_append, takeDigits]
    simp only [isDigit, ih]
    rfl

/-- Before the text that is left stand digits only. -/
theorem exists_digits_of_takeDigits (digit? : Char → Option Nat) (limit : Nat) (text : List Char) :
    ∃ digits, text = digits ++ (takeDigits digit? limit text).2 ∧
      ∀ digit ∈ digits, digit? digit ≠ none := by
  fun_induction takeDigits digit? limit text with
  | case1 text => exact ⟨[], rfl, List.forall_mem_nil _⟩
  | case2 limit => exact ⟨[], rfl, List.forall_mem_nil _⟩
  | case3 limit first rest noDigit => exact ⟨[], rfl, List.forall_mem_nil _⟩
  | case4 limit first rest value isDigit taken ih =>
    obtain ⟨digits, split, areDigits⟩ := ih
    refine ⟨first :: digits, congrArg (first :: ·) split, List.forall_mem_cons.mpr ⟨?_, areDigits⟩⟩
    rw [isDigit]
    exact Option.some_ne_none value

/-! ### Reading one escape -/

theorem readEscape_hexadecimal {rest : List Char} (number : (takeDigits hexDigit? 2 rest).1 ≠ []) :
    readEscape 'x' rest =
      (.byte (UInt8.ofNat (numeral 16 (takeDigits hexDigit? 2 rest).1)),
        (takeDigits hexDigit? 2 rest).2) := by
  rw [readEscape, if_pos rfl]
  split
  · rename_i taken
    rw [taken] at number
    exact absurd rfl number
  · rename_i taken
    rw [taken]

theorem readEscape_octal {lead : Char} {value : Nat} (isDigit : octalDigit? lead = some value)
    (rest : List Char) :
    readEscape lead rest =
      (.byte (UInt8.ofNat (numeral 8 (value :: (takeDigits octalDigit? 2 rest).1))),
        (takeDigits octalDigit? 2 rest).2) := by
  have notX : lead ≠ 'x' := by
    rintro rfl
    cases isDigit
  rw [readEscape, if_neg notX, takeDigits, isDigit]

theorem readEscape_character {lead : Char} {rest : List Char} (notDigit : octalDigit? lead = none)
    (noNumber : lead = 'x' → (takeDigits hexDigit? 2 rest).1 = []) :
    readEscape lead rest = (.character (escapedCharacter lead), rest) := by
  rw [readEscape]
  split
  · rename_i isX
    have nothing := noNumber isX
    split
    · rw [isX]
      rfl
    · rename_i taken
      rw [taken] at nothing
      cases nothing
  · rw [takeDigits, notDigit]

/-- **What an escape is read as**: a hexadecimal number behind `x`, an octal number, or a character. -/
theorem readEscape_cases (lead : Char) (rest : List Char) :
    (lead = 'x' ∧ (takeDigits hexDigit? 2 rest).1 ≠ []) ∨
      (∃ value, octalDigit? lead = some value) ∨
      (octalDigit? lead = none ∧ (lead = 'x' → (takeDigits hexDigit? 2 rest).1 = [])) := by
  by_cases number : lead = 'x' ∧ (takeDigits hexDigit? 2 rest).1 ≠ []
  · exact Or.inl number
  · cases isDigit : octalDigit? lead with
    | some value => exact Or.inr (Or.inl ⟨value, rfl⟩)
    | none =>
      refine Or.inr (Or.inr ⟨rfl, fun isX => ?_⟩)
      exact of_not_not fun someDigit => number ⟨isX, someDigit⟩

/-- An escape ends before a character that is no hexadecimal digit. -/
theorem readEscape_append (lead : Char) (rest : List Char) {more : List Char}
    (ends : ∀ next ∈ more.head?, hexDigit? next = none) :
    readEscape lead (rest ++ more) =
      ((readEscape lead rest).1, (readEscape lead rest).2 ++ more) := by
  have hex := takeDigits_append hexDigit? 2 rest ends
  have octal := takeDigits_append octalDigit? 2 rest
    fun next member => octalDigit?_eq_none_of_hexDigit? (ends next member)
  rcases readEscape_cases lead rest with ⟨rfl, number⟩ | ⟨value, isDigit⟩ | ⟨notDigit, noNumber⟩
  · rw [readEscape_hexadecimal number, readEscape_hexadecimal (by rw [hex]; exact number), hex]
  · rw [readEscape_octal isDigit, readEscape_octal isDigit, octal]
  · rw [readEscape_character notDigit noNumber,
      readEscape_character notDigit (fun isX => by rw [hex]; exact noNumber isX)]

/-- No backslash stands between the first character of an escape and the text behind it. -/
theorem exists_digits_of_readEscape (lead : Char) (rest : List Char) :
    ∃ digits, rest = digits ++ (readEscape lead rest).2 ∧ ∀ digit ∈ digits, digit ≠ '\\' := by
  rcases readEscape_cases lead rest with ⟨rfl, number⟩ | ⟨value, isDigit⟩ | ⟨notDigit, noNumber⟩
  · obtain ⟨digits, split, areDigits⟩ := exists_digits_of_takeDigits hexDigit? 2 rest
    rw [readEscape_hexadecimal number]
    exact ⟨digits, split, fun digit member same => areDigits digit member (same ▸ rfl)⟩
  · obtain ⟨digits, split, areDigits⟩ := exists_digits_of_takeDigits octalDigit? 2 rest
    rw [readEscape_octal isDigit]
    exact ⟨digits, split, fun digit member same => areDigits digit member (same ▸ rfl)⟩
  · rw [readEscape_character notDigit noNumber]
    exact ⟨[], rfl, List.forall_mem_nil _⟩

/-! ### The pieces of a text -/

theorem pieces_nil : pieces [] = [] := by
  rw [pieces]

/-- A character that is no backslash stands for itself. -/
theorem pieces_cons {character : Char} (plain : character ≠ '\\') (rest : List Char) :
    pieces (character :: rest) = .character character :: pieces rest := by
  rw [pieces.eq_def]
  split
  · rename_i same
    exact absurd (List.cons.inj same).1 plain
  · rename_i same
    obtain ⟨rfl, rfl⟩ := List.cons.inj same
    rfl
  · rename_i impossible
    cases impossible

theorem pieces_escape (lead : Char) (rest : List Char) :
    pieces ('\\' :: lead :: rest) = (readEscape lead rest).1 :: pieces (readEscape lead rest).2 := by
  rw [pieces]

/-- An escaped character that starts no number stands for one character. -/
theorem pieces_escaped_character {lead : Char} (notX : lead ≠ 'x') (notDigit : octalDigit? lead = none)
    (rest : List Char) :
    pieces ('\\' :: lead :: rest) = .character (escapedCharacter lead) :: pieces rest := by
  rw [pieces_escape, readEscape_character notDigit fun isX => absurd isX notX]

/-- Two hexadecimal digits are a whole number, whatever follows them. -/
theorem pieces_hexadecimal {high low : Char} {highValue lowValue : Nat}
    (isHigh : hexDigit? high = some highValue) (isLow : hexDigit? low = some lowValue)
    (rest : List Char) :
    pieces ('\\' :: 'x' :: high :: low :: rest) =
      .byte (UInt8.ofNat (16 * highValue + lowValue)) :: pieces rest := by
  have taken : takeDigits hexDigit? 2 (high :: low :: rest) = ([highValue, lowValue], rest) := by
    simp only [takeDigits, isHigh, isLow]
  have value : numeral 16 [highValue, lowValue] = 16 * highValue + lowValue := by
    simp [numeral]
  rw [pieces_escape, readEscape_hexadecimal (by simp [taken]), taken, value]

/-- Three octal digits are a whole number, whatever follows them. -/
theorem pieces_octal {first second third : Char} {firstValue secondValue thirdValue : Nat}
    (isFirst : octalDigit? first = some firstValue) (isSecond : octalDigit? second = some secondValue)
    (isThird : octalDigit? third = some thirdValue) (rest : List Char) :
    pieces ('\\' :: first :: second :: third :: rest) =
      .byte (UInt8.ofNat (8 * (8 * firstValue + secondValue) + thirdValue)) :: pieces rest := by
  have taken : takeDigits octalDigit? 2 (second :: third :: rest) =
      ([secondValue, thirdValue], rest) := by
    simp only [takeDigits, isSecond, isThird]
  have value : numeral 8 [firstValue, secondValue, thirdValue] =
      8 * (8 * firstValue + secondValue) + thirdValue := by
    simp [numeral]
  rw [pieces_escape, readEscape_octal isFirst, taken, value]

/-! ### Runs of bytes -/

theorem decodeRun_flatMap_utf8EncodeChar (text : List Char) :
    decodeRun (text.flatMap String.utf8EncodeChar) = text := by
  have bytes : (⟨(text.flatMap String.utf8EncodeChar).toArray⟩ : ByteArray) =
      (String.ofList text).toUTF8 := by
    rw [← String.toList_ofList (l := text), ← toList_toUTF8]
    simp
  rw [decodeRun, bytes, fromUTF8?_toUTF8]
  exact String.toList_ofList

/-- A valid run is the encoding of what it is decoded to. -/
theorem encoded_decodeRun {run : List UInt8} (valid : ByteArray.IsValidUTF8 run.toByteArray) :
    (decodeRun run).flatMap String.utf8EncodeChar = run := by
  obtain ⟨text, encoded⟩ := valid
  have same : run = text.flatMap String.utf8EncodeChar := by
    have bytes := congrArg (fun array : ByteArray => array.data.toList) encoded
    simpa only [List.utf8Encode, List.toList_data_toByteArray] using bytes
  rw [same, decodeRun_flatMap_utf8EncodeChar]

theorem assembleAfter_map_byte (run bytes : List UInt8) (rest : List Piece) :
    assembleAfter run (bytes.map .byte ++ rest) = assembleAfter (run ++ bytes) rest := by
  induction bytes generalizing run with
  | nil => rw [List.map_nil, List.nil_append, List.append_nil]
  | cons byte bytes ih =>
    rw [List.map_cons, List.cons_append, assembleAfter, ih, List.append_assoc, List.singleton_append]

/-- A character ends the run before it, so that what follows is assembled on its own. -/
theorem assembleAfter_append_character (run : List UInt8) (before after : List Piece)
    (character : Char) :
    assembleAfter run (before ++ .character character :: after) =
      assembleAfter run before ++ character :: assemble after := by
  fun_induction assembleAfter run before with
  | case1 run => rfl
  | case2 run byte rest ih =>
    rw [List.cons_append, assembleAfter, ih]
  | case3 run value rest ih =>
    rw [List.cons_append, assembleAfter, ih, List.append_assoc, List.cons_append]

/-! ### Writing a text with escapes -/

/-- The ways to write a byte as a number: by two hexadecimal digits of either case, or by three octal
digits. An octal number beyond a byte stands for its low eight bits. -/
inductive WritesByte : UInt8 → List Char → Prop
  | hexadecimal {byte : UInt8} {high low : Char} :
      high = Nat.digitChar (byte.toNat / 16) ∨ high = (Nat.digitChar (byte.toNat / 16)).toUpper →
      low = Nat.digitChar (byte.toNat % 16) ∨ low = (Nat.digitChar (byte.toNat % 16)).toUpper →
        WritesByte byte ['\\', 'x', high, low]
  | octal (number : Nat) : number < 512 →
      WritesByte (UInt8.ofNat number) ['\\', Nat.digitChar (number / 64),
        Nat.digitChar (number / 8 % 8), Nat.digitChar (number % 8)]

/-- The letters that stand for a control character behind a backslash, each with that character. -/
def controlLetters : List (Char × Char) :=
  [('n', '\n'), ('t', '\t'), ('r', '\r'), ('a', '\x07'), ('v', '\x0b'), ('b', '\x08'), ('f', '\x0c')]

/-- The ways to write a character: as it is, if it is no backslash; behind a backslash, if that has no
meaning of its own; by its letter, if it is a control character that has one; or by a number for each
byte of its encoding. -/
inductive Writes : Char → List Char → Prop
  | plain {character : Char} : character ≠ '\\' → Writes character [character]
  | escaped {character : Char} :
      character ∉ "ntravbfx01234567".toList → Writes character ['\\', character]
  | letter {letter character : Char} :
      (letter, character) ∈ controlLetters → Writes character ['\\', letter]
  | bytes {character : Char} {numbers : List (List Char)} :
      List.Forall₂ WritesByte (String.utf8EncodeChar character) numbers →
        Writes character numbers.flatten

theorem WritesByte.pieces_append {byte : UInt8} {number : List Char} (writes : WritesByte byte number)
    (rest : List Char) : pieces (number ++ rest) = .byte byte :: pieces rest := by
  cases writes with
  | @hexadecimal _ high low isHigh isLow =>
    have bound := byte.toNat_lt
    have highDigit := hexDigit?_digitChar (by omega) isHigh
    have lowDigit := hexDigit?_digitChar (by omega) isLow
    have value : 16 * (byte.toNat / 16) + byte.toNat % 16 = byte.toNat := Nat.div_add_mod _ _
    show pieces ('\\' :: 'x' :: high :: low :: rest) = _
    rw [pieces_hexadecimal highDigit lowDigit, value, UInt8.ofNat_toNat]
  | octal number bound =>
    have value : 8 * (8 * (number / 64) + number / 8 % 8) + number % 8 = number := by omega
    show pieces ('\\' :: _ :: _ :: _ :: rest) = _
    rw [pieces_octal (octalDigit?_digitChar _ (by omega)) (octalDigit?_digitChar _ (by omega))
      (octalDigit?_digitChar _ (by omega)), value]

theorem pieces_flatten_numbers {bytes : List UInt8} {numbers : List (List Char)}
    (writes : List.Forall₂ WritesByte bytes numbers) (rest : List Char) :
    pieces (numbers.flatten ++ rest) = bytes.map .byte ++ pieces rest := by
  induction writes with
  | nil => rfl
  | cons first _ ih =>
    rw [List.flatten_cons, List.append_assoc, first.pieces_append, ih, List.map_cons, List.cons_append]

theorem escapedCharacter_of_mem_controlLetters :
    ∀ pair ∈ controlLetters, pair.1 ≠ 'x' ∧ octalDigit? pair.1 = none ∧
      escapedCharacter pair.1 = pair.2 := by
  decide

theorem escapedCharacter_eq_self {character : Char} (absent : character ∉ "ntravbf".toList) :
    escapedCharacter character = character := by
  unfold escapedCharacter
  split
  case h_8 => rfl
  all_goals exact absurd (by decide) absent

/-- **What a written character is read as**: the character, or the bytes of its encoding. -/
theorem Writes.pieces_append {character : Char} {part : List Char} (writes : Writes character part) :
    (∀ rest, pieces (part ++ rest) = .character character :: pieces rest) ∨
      ∀ rest, pieces (part ++ rest) =
        (String.utf8EncodeChar character).map .byte ++ pieces rest := by
  cases writes with
  | plain notBackslash => exact Or.inl (pieces_cons notBackslash)
  | escaped absent =>
    have notX : character ≠ 'x' := by
      rintro rfl
      exact absent (by decide)
    have absentFrom (others : String) (within : others.toList ⊆ "ntravbfx01234567".toList) :
        character ∉ others.toList := fun member => absent (within member)
    have notDigit := octalDigit?_eq_none (absentFrom "01234567" (by decide))
    have itself := escapedCharacter_eq_self (absentFrom "ntravbf" (by decide))
    refine Or.inl fun rest => ?_
    show pieces ('\\' :: character :: rest) = _
    rw [pieces_escaped_character notX notDigit, itself]
  | @letter letter _ listed =>
    obtain ⟨notX, notDigit, same⟩ := escapedCharacter_of_mem_controlLetters _ listed
    refine Or.inl fun rest => ?_
    show pieces ('\\' :: letter :: rest) = _
    rw [pieces_escaped_character notX notDigit, same]
  | bytes numbers => exact Or.inr (pieces_flatten_numbers numbers)

/-- Behind the bytes of some characters, a written text is assembled to these characters and the
text: a run that crosses characters decodes to all of them. -/
theorem assembleAfter_pieces_flatten (before : List Char) {text : List Char}
    {parts : List (List Char)} (writes : List.Forall₂ Writes text parts) :
    assembleAfter (before.flatMap String.utf8EncodeChar) (pieces parts.flatten) = before ++ text := by
  -- The open run is always the encoding of whole characters: bytes add one to them, and a character
  -- that is read as such closes the run.
  induction writes generalizing before with
  | nil =>
    rw [List.flatten_nil, pieces_nil, assembleAfter, decodeRun_flatMap_utf8EncodeChar,
      List.append_nil]
  | @cons character part text parts first _ ih =>
    rw [List.flatten_cons]
    rcases first.pieces_append with asCharacter | asBytes
    · have others : assembleAfter [] (pieces parts.flatten) = text := ih []
      rw [asCharacter, assembleAfter, decodeRun_flatMap_utf8EncodeChar, others]
    · have encoded : before.flatMap String.utf8EncodeChar ++ String.utf8EncodeChar character =
          (before ++ [character]).flatMap String.utf8EncodeChar := by
        rw [List.flatMap_append, List.flatMap_singleton]
      rw [asBytes, assembleAfter_map_byte, encoded, ih, List.append_assoc, List.singleton_append]

/-- **A text is read back from what it has been written as.** -/
theorem assemble_pieces_flatten {text : List Char} {parts : List (List Char)}
    (writes : List.Forall₂ Writes text parts) : assemble (pieces parts.flatten) = text :=
  assembleAfter_pieces_flatten [] writes

/-! ### Cutting a text in two -/

/-- The number of backslashes at the end of a text. -/
def trailingBackslashes (text : List Char) : Nat :=
  (text.reverse.takeWhile (· = '\\')).length

/-- Only what stands behind the last other character counts. -/
theorem trailingBackslashes_append_cons (before : List Char) {character : Char}
    (plain : character ≠ '\\') (rest : List Char) :
    trailingBackslashes (before ++ character :: rest) = trailingBackslashes rest := by
  unfold trailingBackslashes
  rw [List.reverse_append, List.reverse_cons, List.append_assoc, List.takeWhile_append]
  split
  · rename_i whole
    simp [plain, whole]
  · rfl

theorem trailingBackslashes_append {digits : List Char} (plain : ∀ digit ∈ digits, digit ≠ '\\')
    (rest : List Char) : trailingBackslashes (digits ++ rest) = trailingBackslashes rest := by
  induction digits with
  | nil => rfl
  | cons digit digits ih =>
    obtain ⟨first, others⟩ := List.forall_mem_cons.mp plain
    rw [← ih others]
    exact trailingBackslashes_append_cons [] first _

/-- Two backslashes more do not change whether their number at the end is even. -/
theorem trailingBackslashes_escaped (rest : List Char) :
    trailingBackslashes ('\\' :: '\\' :: rest) % 2 = trailingBackslashes rest % 2 := by
  unfold trailingBackslashes
  rw [List.reverse_cons, List.reverse_cons, List.append_assoc, List.takeWhile_append]
  split
  · rename_i whole
    simp [whole]
  · rfl

theorem trailingBackslashes_readEscape (lead : Char) (rest : List Char) :
    trailingBackslashes (readEscape lead rest).2 % 2 =
      trailingBackslashes ('\\' :: lead :: rest) % 2 := by
  obtain ⟨digits, split, plain⟩ := exists_digits_of_readEscape lead rest
  have shorter : trailingBackslashes (readEscape lead rest).2 = trailingBackslashes rest := by
    rw [split, trailingBackslashes_append plain, ← split]
  rw [shorter]
  -- Behind an escaped backslash two are gone at once; before any other character none counts.
  by_cases escaped : lead = '\\'
  · rw [escaped, trailingBackslashes_escaped]
  · exact congrArg (· % 2) (trailingBackslashes_append_cons ['\\'] escaped rest).symm

/-- **Where a text may be cut in two**: not behind a backslash that escapes what follows it, and not
before a digit. -/
theorem pieces_append {text more : List Char} (even : trailingBackslashes text % 2 = 0)
    (ends : ∀ next ∈ more.head?, hexDigit? next = none) :
    pieces (text ++ more) = pieces text ++ pieces more := by
  induction text using pieces.induct with
  | case1 lead rest ih =>
    have inside := (trailingBackslashes_readEscape lead rest).trans even
    rw [List.cons_append, List.cons_append, pieces_escape, readEscape_append lead rest ends, ih inside,
      pieces_escape, List.cons_append]
  | case2 first rest noEscape ih =>
    have plain : first ≠ '\\' := by
      rintro rfl
      cases rest with
      | nil => exact absurd even (by decide) -- A backslash that ends the text is one too many.
      | cons lead rest => exact noEscape lead rest rfl rfl
    rw [show trailingBackslashes (first :: rest) = trailingBackslashes rest from
      trailingBackslashes_append_cons [] plain rest] at even
    rw [List.cons_append, pieces_cons plain, pieces_cons plain, ih even, List.cons_append]
  | case3 => rw [pieces_nil, List.nil_append, List.nil_append]

end Escape

/-- **Escapes are undone, however they are chosen.** Write each character of a text as it is, behind a
backslash, by its letter or by numbers for its bytes, each in one of the ways that its kind allows.
Undoing the escapes of what has been written gives the text back. -/
theorem unescape_undoes_writing (text : String) {parts : List (List Char)}
    (writes : List.Forall₂ Escape.Writes text.toList parts) :
    unescape (String.ofList parts.flatten) = text := by
  rw [unescape, String.toList_ofList, Escape.assemble_pieces_flatten writes, String.ofList_toList]

/-- Two characters by their bytes, so that five numbers form one run, a digit directly behind them, a
newline by its letter, and a backslash and a quote behind backslashes. -/
def Escape.mixedParts : List (List Char) :=
  [["\\xC3".toList, "\\251".toList].flatten,
    ["\\xe2".toList, "\\202".toList, "\\xAc".toList].flatten,
    "1".toList, "\\n".toList, "\\\\".toList, "\\'".toList]

theorem unescape_mixedParts :
    List.Forall₂ Escape.Writes "é€1\n\\'".toList Escape.mixedParts ∧
      unescape "\\xC3\\251\\xe2\\202\\xAc1\\n\\\\\\'" = "é€1\n\\'" := by
  have accent : List.Forall₂ Escape.WritesByte (String.utf8EncodeChar 'é')
      ["\\xC3".toList, "\\251".toList] :=
    .cons (.hexadecimal (by decide) (by decide)) (.cons (.octal 0xA9 (by decide)) .nil)
  have currency : List.Forall₂ Escape.WritesByte (String.utf8EncodeChar '€')
      ["\\xe2".toList, "\\202".toList, "\\xAc".toList] :=
    .cons (.hexadecimal (by decide) (by decide)) (.cons (.octal 0x82 (by decide))
      (.cons (.hexadecimal (by decide) (by decide)) .nil))
  have writes : List.Forall₂ Escape.Writes "é€1\n\\'".toList Escape.mixedParts :=
    .cons (.bytes accent) (.cons (.bytes currency) (.cons (.plain (by decide))
      (.cons (.letter (by decide)) (.cons (.escaped (by decide)) (.cons (.escaped (by decide)) .nil)))))
  have spelled : String.ofList Escape.mixedParts.flatten =
      "\\xC3\\251\\xe2\\202\\xAc1\\n\\\\\\'" := by
    decide
  refine ⟨writes, ?_⟩
  rw [← spelled, unescape_undoes_writing "é€1\n\\'" writes]

/-- **Plain text separates escapes.** Behind an even number of backslashes, a character that is neither
a backslash nor a hexadecimal digit stands for itself, and the texts before and behind it are read as
if they stood alone. -/
theorem unescape_separated (before after : String) {character : Char}
    (even : Escape.trailingBackslashes before.toList % 2 = 0) (plain : character ≠ '\\')
    (notDigit : character ∉ "0123456789abcdefABCDEF".toList) :
    unescape (before ++ String.singleton character ++ after) =
      unescape before ++ String.singleton character ++ unescape after := by
  have ends : ∀ next ∈ (character :: after.toList).head?, Escape.hexDigit? next = none := by
    rintro next ⟨⟩
    exact Escape.hexDigit?_eq_none notDigit
  have read : Escape.pieces (before.toList ++ character :: after.toList) =
      Escape.pieces before.toList ++ .character character :: Escape.pieces after.toList := by
    rw [Escape.pieces_append even ends, Escape.pieces_cons plain]
  rw [← String.toList_inj]
  simp only [unescape, String.toList_append, String.toList_ofList, String.toList_singleton,
    List.append_assoc, List.singleton_append]
  rw [read, Escape.assemble, Escape.assembleAfter_append_character]
  rfl

/-- Two bytes that would be one character if nothing stood between them. -/
theorem unescape_lone_bytes_separated :
    Escape.trailingBackslashes "\\xC3\\\\".toList % 2 = 0 ∧
      unescape ("\\xC3\\\\" ++ String.singleton 'g' ++ "\\xA9") = "Ã\\g©" := by
  have even : Escape.trailingBackslashes "\\xC3\\\\".toList % 2 = 0 := by decide
  have left : unescape "\\xC3\\\\" = "Ã\\" := by decide +kernel
  have right : unescape "\\xA9" = "©" := by decide +kernel
  refine ⟨even, ?_⟩
  rw [unescape_separated "\\xC3\\\\" "\\xA9" even (by decide) (by decide), left, right]
  rfl

end MessageHarvest
