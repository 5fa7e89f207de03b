/-
**Escapes among bytes.**

Escapes can also be undone in the bytes of a text, without knowing its characters: a number stands for
its byte at once, and every other byte is taken over. As long as the bytes that numbers stand for are
valid UTF-8, run by run, this gives the bytes of the text without escapes.

* `Escape.denotedBytes` — the bytes that bytes with escapes denote, from left to right.
* `Escape.denotedBytes_encoded` — they are those of the pieces of the text.
* `Escape.encoded_assembleAfter` — the bytes of assembled pieces.
* `unescape_agrees_with_bytes` — undoing escapes in a text and in its bytes.
-/

import MessageHarvest.Proofs.Unescaping

namespace MessageHarvest

namespace Escape

/-! ### The bytes that bytes with escapes denote -/

/-- A byte that bytes with escapes denote, and whether a number among them stands for it. -/
structure DenotedByte where
  value : UInt8
  numbered : Bool
deriving DecidableEq, Repr

/-- The value of a hexadecimal digit of either case, by the byte of the digit. -/
def hexByte? (digit : UInt8) : Option Nat :=
  if 0x30 ≤ digit.toNat ∧ digit.toNat ≤ 0x39 then some (digit.toNat - 0x30)
  else if 0x41 ≤ digit.toNat ∧ digit.toNat ≤ 0x46 then some (digit.toNat - 0x41 + 10)
  else if 0x61 ≤ digit.toNat ∧ digit.toNat ≤ 0x66 then some (digit.toNat - 0x61 + 10)
  else none

/-- The value of an octal digit, by the byte of the digit. -/
def octalByte? (digit : UInt8) : Option Nat :=
  if 0x30 ≤ digit.toNat ∧ digit.toNat ≤ 0x37 then some (digit.toNat - 0x30) else none

/-- The values of the digits at the head of bytes: all that stand there, but at most `limit`. -/
def digitsAhead (digit? : UInt8 → Option Nat) (limit : Nat) (bytes : List UInt8) : List Nat :=
  (((bytes.take limit).map digit?).takeWhile Option.isSome).filterMap id

/-- The number that digits denote in a base: each digit counts by the power of its place. -/
def placeValue (base : Nat) : List Nat → Nat
  | [] => 0
  | digit :: others => digit * Nat.pow base others.length + placeValue base others

/-- The bytes of the letters that stand for a control character behind a backslash, each with the
byte of that character. -/
def controlBytes : List (UInt8 × UInt8) :=
  [(0x6E, 0x0A), (0x74, 0x09), (0x72, 0x0D), (0x61, 0x07), (0x76, 0x0B), (0x62, 0x08), (0x66, 0x0C)]

/-- Reads what stands behind a backslash: the byte that it denotes, and the bytes behind it. -/
def readEscapedByte (lead : UInt8) (rest : List UInt8) : DenotedByte × List UInt8 :=
  let hexadecimal := if lead = 0x78 then digitsAhead hexByte? 2 rest else []
  let octal := digitsAhead octalByte? 3 (lead :: rest)
  if hexadecimal ≠ [] then
    (⟨UInt8.ofNat (placeValue 16 hexadecimal), true⟩, rest.drop hexadecimal.length)
  else if octal ≠ [] then
    (⟨UInt8.ofNat (placeValue 8 octal), true⟩, (lead :: rest).drop octal.length)
  else
    (⟨(controlBytes.lookup lead).getD lead, false⟩, rest)

theorem length_readEscapedByte_lt (lead : UInt8) (rest : List UInt8) :
    (readEscapedByte lead rest).2.length < rest.length + 2 := by
  unfold readEscapedByte
  dsimp only
  split_ifs <;> simp only [List.length_drop, List.length_cons] <;> omega

/-- The bytes that bytes with escapes denote, from left to right. A backslash at the very end is taken
over like any other byte. -/
def denotedBytes : List UInt8 → List DenotedByte
  | [] => []
  | [byte] => [⟨byte, false⟩]
  | byte :: lead :: rest =>
    if byte = 0x5C then
      (readEscapedByte lead rest).1 :: denotedBytes (readEscapedByte lead rest).2
    else
      ⟨byte, false⟩ :: denotedBytes (lead :: rest)
termination_by bytes => bytes.length
decreasing_by
  · exact length_readEscapedByte_lt lead rest
  · exact Nat.lt_succ_self _

/-- The bytes with all escapes undone. -/
def unescapeBytes (bytes : List UInt8) : List UInt8 :=
  (denotedBytes bytes).map DenotedByte.value

/-- Every longest run of bytes that numbers stand for is valid UTF-8. -/
def RunsAreValid (bytes : List DenotedByte) : Prop :=
  ∀ run ∈ bytes.splitOnP (fun byte => !byte.numbered),
    ByteArray.IsValidUTF8 (run.map DenotedByte.value).toByteArray

instance (bytes : List DenotedByte) : Decidable (RunsAreValid bytes) :=
  inferInstanceAs (Decidable (∀ run ∈ bytes.splitOnP _, _))

/-! ### Digits -/

/-- The digits of a class are the same by character and by byte. -/
structure SameDigits (digit? : Char → Option Nat) (digitByte? : UInt8 → Option Nat) : Prop where
  ascii : ∀ number < 0x80, digitByte? (UInt8.ofNat number) = digit? (Char.ofNat number)
  beyond : ∀ character : Char, 0x80 ≤ character.toNat → digit? character = none
  beyondByte : ∀ byte : UInt8, 0x80 ≤ byte.toNat → digitByte? byte = none

theorem sameDigits_hexadecimal : SameDigits hexDigit? hexByte? where
  ascii := by decide +kernel
  beyond _ := hexDigit?_of_beyond
  beyondByte byte high := by
    unfold hexByte?
    rw [if_neg (by omega), if_neg (by omega), if_neg (by omega)]

theorem sameDigits_octal : SameDigits octalDigit? octalByte? where
  ascii := by decide +kernel
  beyond _ := octalDigit?_of_beyond
  beyondByte byte high := if_neg (by omega)

section Digits

variable {digit? : Char → Option Nat} {digitByte? : UInt8 → Option Nat}

/-- No byte of a character that is no digit is one. -/
theorem SameDigits.of_none (same : SameDigits digit? digitByte?) {character : Char}
    (noDigit : digit? character = none) :
    ∀ byte ∈ String.utf8EncodeChar character, digitByte? byte = none := by
  intro byte member
  rcases utf8EncodeChar_cases character with ⟨ascii, encoded⟩ | ⟨_, high⟩
  · rw [encoded, List.mem_singleton] at member
    rw [member, same.ascii _ ascii, Char.ofNat_toNat, noDigit]
  · exact same.beyondByte byte (high byte member)

/-- A digit has one byte, which is a digit of the same value. -/
theorem SameDigits.of_some (same : SameDigits digit? digitByte?) {character : Char} {value : Nat}
    (isDigit : digit? character = some value) :
    ∃ byte, String.utf8EncodeChar character = [byte] ∧ digitByte? byte = some value := by
  rcases utf8EncodeChar_cases character with ⟨ascii, encoded⟩ | ⟨beyond, _⟩
  · refine ⟨UInt8.ofNat character.toNat, encoded, ?_⟩
    rw [same.ascii _ ascii, Char.ofNat_toNat, isDigit]
  · rw [same.beyond character beyond] at isDigit
    cases isDigit

theorem digitsAhead_cons_of_none {byte : UInt8} (noDigit : digitByte? byte = none) (limit : Nat)
    (bytes : List UInt8) : digitsAhead digitByte? limit (byte :: bytes) = [] := by
  cases limit with
  | zero => rfl
  | succ limit => simp [digitsAhead, noDigit]

theorem digitsAhead_cons_of_some {byte : UInt8} {value : Nat} (isDigit : digitByte? byte = some value)
    (limit : Nat) (bytes : List UInt8) :
    digitsAhead digitByte? (limit + 1) (byte :: bytes) =
      value :: digitsAhead digitByte? limit bytes := by
  simp [digitsAhead, isDigit]

/-- **The digits at the head of a text** are those at the head of its bytes, and so is what follows. -/
theorem digitsAhead_encoded (same : SameDigits digit? digitByte?) (limit : Nat) (text : List Char) :
    digitsAhead digitByte? limit (text.flatMap String.utf8EncodeChar) =
        (takeDigits digit? limit text).1 ∧
      (text.flatMap String.utf8EncodeChar).drop (takeDigits digit? limit text).1.length =
        (takeDigits digit? limit text).2.flatMap String.utf8EncodeChar := by
  fun_induction takeDigits digit? limit text with
  | case1 text => exact ⟨rfl, rfl⟩
  | case2 limit => exact ⟨rfl, rfl⟩
  | case3 limit first rest noDigit =>
    obtain ⟨byte, bytes, encoded⟩ := exists_utf8EncodeChar_eq_cons first
    have noDigitByte := same.of_none noDigit byte (encoded ▸ List.mem_cons_self)
    refine ⟨?_, rfl⟩
    rw [List.flatMap_cons, encoded, List.cons_append, digitsAhead_cons_of_none noDigitByte]
  | case4 limit first rest value isDigit taken ih =>
    obtain ⟨byte, encoded, isDigitByte⟩ := same.of_some isDigit
    rw [List.flatMap_cons, encoded, List.singleton_append, digitsAhead_cons_of_some isDigitByte, ih.1]
    exact ⟨rfl, ih.2⟩

end Digits

theorem foldl_eq_placeValue (base number : Nat) (digits : List Nat) :
    digits.foldl (fun number digit => base * number + digit) number =
      number * Nat.pow base digits.length + placeValue base digits := by
  induction digits generalizing number with
  | nil => simp [placeValue]
  | cons digit digits ih =>
    rw [List.foldl_cons, ih, placeValue, List.length_cons, Nat.pow_eq, Nat.pow_eq, Nat.pow_succ]
    grind

theorem numeral_eq_placeValue (base : Nat) (digits : List Nat) :
    numeral base digits = placeValue base digits := by
  rw [numeral, foldl_eq_placeValue, Nat.zero_mul, Nat.zero_add]

/-! ### Bytes and pieces -/

/-- The bytes that a piece denotes: those of a character, or the byte of a number. -/
def Piece.denoted : Piece → List DenotedByte
  | .character value => (String.utf8EncodeChar value).map (DenotedByte.mk · false)
  | .byte value => [⟨value, true⟩]

theorem denotedBytes_cons {byte : UInt8} (plain : byte ≠ 0x5C) (rest : List UInt8) :
    denotedBytes (byte :: rest) = ⟨byte, false⟩ :: denotedBytes rest := by
  cases rest with
  | nil => simp [denotedBytes]
  | cons lead rest => rw [denotedBytes, if_neg plain]

theorem denotedBytes_append {bytes : List UInt8} (plain : ∀ byte ∈ bytes, byte ≠ 0x5C)
    (rest : List UInt8) :
    denotedBytes (bytes ++ rest) = bytes.map (DenotedByte.mk · false) ++ denotedBytes rest := by
  induction bytes with
  | nil => rfl
  | cons byte bytes ih =>
    obtain ⟨first, others⟩ := List.forall_mem_cons.mp plain
    rw [List.cons_append, denotedBytes_cons first, ih others, List.map_cons, List.cons_append]

theorem denotedBytes_escape (lead : UInt8) (rest : List UInt8) :
    denotedBytes (0x5C :: lead :: rest) =
      (readEscapedByte lead rest).1 :: denotedBytes (readEscapedByte lead rest).2 := by
  rw [denotedBytes, if_pos rfl]

theorem backslash_not_mem_utf8EncodeChar {character : Char} (differs : character ≠ '\\') :
    ∀ byte ∈ String.utf8EncodeChar character, byte ≠ 0x5C := by
  rintro byte member rfl
  exact not_mem_utf8EncodeChar differs (by decide) member

/-! ### One escape -/

theorem readEscapedByte_hexadecimal {rest : List UInt8} (number : digitsAhead hexByte? 2 rest ≠ []) :
    readEscapedByte 0x78 rest =
      (⟨UInt8.ofNat (placeValue 16 (digitsAhead hexByte? 2 rest)), true⟩,
        rest.drop (digitsAhead hexByte? 2 rest).length) := by
  rw [readEscapedByte]
  exact if_pos number

theorem readEscapedByte_octal {lead : UInt8} {value : Nat} (isDigit : octalByte? lead = some value)
    (rest : List UInt8) :
    readEscapedByte lead rest =
      (⟨UInt8.ofNat (placeValue 8 (value :: digitsAhead octalByte? 2 rest)), true⟩,
        rest.drop (digitsAhead octalByte? 2 rest).length) := by
  have notX : lead ≠ 0x78 := by
    rintro rfl
    cases isDigit
  simp only [readEscapedByte, if_neg notX, digitsAhead_cons_of_some isDigit]
  rfl

theorem readEscapedByte_character {lead : UInt8} {rest : List UInt8}
    (notDigit : octalByte? lead = none) (noNumber : lead = 0x78 → digitsAhead hexByte? 2 rest = []) :
    readEscapedByte lead rest = (⟨(controlBytes.lookup lead).getD lead, false⟩, rest) := by
  have nothing : (if lead = 0x78 then digitsAhead hexByte? 2 rest else []) = [] := by
    split
    · rename_i isX
      exact noNumber isX
    · rfl
  simp only [readEscapedByte, nothing, digitsAhead_cons_of_none notDigit]
  rfl

theorem encoded_escapedCharacter :
    ∀ number < 0x80, String.utf8EncodeChar (escapedCharacter (Char.ofNat number)) =
      [(controlBytes.lookup (UInt8.ofNat number)).getD (UInt8.ofNat number)] := by
  decide +kernel

/-- **One escape, by characters and by bytes**, if its first character has one byte only. -/
theorem readEscapedByte_encoded {lead : Char} (ascii : lead.toNat < 0x80) (rest : List Char) :
    (readEscape lead rest).1.denoted =
        [(readEscapedByte (UInt8.ofNat lead.toNat) (rest.flatMap String.utf8EncodeChar)).1] ∧
      (readEscape lead rest).2.flatMap String.utf8EncodeChar =
        (readEscapedByte (UInt8.ofNat lead.toNat) (rest.flatMap String.utf8EncodeChar)).2 := by
  have hex := digitsAhead_encoded sameDigits_hexadecimal 2 rest
  have octal := digitsAhead_encoded sameDigits_octal 2 rest
  have sameDigit : octalByte? (UInt8.ofNat lead.toNat) = octalDigit? lead := by
    rw [sameDigits_octal.ascii _ ascii, Char.ofNat_toNat]
  rcases readEscape_cases lead rest with ⟨rfl, number⟩ | ⟨value, isDigit⟩ | ⟨notDigit, noNumber⟩
  · have numberByte := hex.1 ▸ number
    rw [readEscape_hexadecimal number, show UInt8.ofNat 'x'.toNat = 0x78 from rfl,
      readEscapedByte_hexadecimal numberByte, hex.1, hex.2, numeral_eq_placeValue]
    exact ⟨rfl, rfl⟩
  · rw [readEscape_octal isDigit, readEscapedByte_octal (sameDigit.trans isDigit), octal.1, octal.2,
      numeral_eq_placeValue]
    exact ⟨rfl, rfl⟩
  · have noNumberByte : UInt8.ofNat lead.toNat = 0x78 →
        digitsAhead hexByte? 2 (rest.flatMap String.utf8EncodeChar) = [] := by
      intro isX
      rw [hex.1]
      have same : UInt8.ofNat lead.toNat = UInt8.ofNat 'x'.toNat := isX
      exact noNumber (eq_of_ofNat_toNat_eq ascii (by decide) same)
    have single := encoded_escapedCharacter lead.toNat ascii
    rw [Char.ofNat_toNat] at single
    rw [readEscape_character notDigit noNumber,
      readEscapedByte_character (sameDigit.trans notDigit) noNumberByte, Piece.denoted, single]
    exact ⟨rfl, rfl⟩

/-- A byte beyond those of ASCII stands for itself behind a backslash. -/
theorem readEscapedByte_of_beyond {byte : UInt8} (beyond : 0x80 ≤ byte.toNat) (rest : List UInt8) :
    readEscapedByte byte rest = (⟨byte, false⟩, rest) := by
  have noLetter : controlBytes.lookup byte = none := by
    have ascii : controlBytes.all (fun pair => pair.1.toNat < 0x80) = true := by decide
    refine List.lookup_eq_none_iff.mpr fun pair member => ?_
    rw [bne_iff_ne]
    rintro rfl
    exact absurd (of_decide_eq_true (List.all_eq_true.mp ascii pair member)) (by omega)
  have notX : byte ≠ 0x78 := by
    rintro rfl
    exact absurd beyond (by decide)
  rw [readEscapedByte_character (sameDigits_octal.beyondByte byte beyond) (fun isX => absurd isX notX),
    noLetter]
  rfl

theorem readEscape_of_beyond {lead : Char} (beyond : 0x80 ≤ lead.toNat) (rest : List Char) :
    readEscape lead rest = (.character lead, rest) := by
  have notX : lead ≠ 'x' := by
    rintro rfl
    exact absurd beyond (by decide)
  have itself : escapedCharacter lead = lead := by
    have ascii : "ntravbf".toList.all (fun letter => letter.toNat < 0x80) = true := by decide
    apply escapedCharacter_eq_self
    intro member
    exact absurd (of_decide_eq_true (List.all_eq_true.mp ascii lead member)) (by omega)
  rw [readEscape_character (octalDigit?_of_beyond beyond) (fun isX => absurd isX notX), itself]

/-- **The bytes that a text denotes** are those of its pieces, whether the escapes are read by
characters or by bytes. -/
theorem denotedBytes_encoded (text : List Char) :
    denotedBytes (text.flatMap String.utf8EncodeChar) = (pieces text).flatMap Piece.denoted := by
  induction text using pieces.induct with
  | case1 lead rest ih =>
    have backslash : String.utf8EncodeChar '\\' = [0x5C] := by decide
    rw [pieces_escape, List.flatMap_cons, List.flatMap_cons, backslash, List.singleton_append,
      List.flatMap_cons]
    -- Only a character of one byte can start a number or be a letter. Of any other the backslash takes
    -- the first byte, and the rest are taken over one by one.
    rcases utf8EncodeChar_cases lead with ⟨ascii, encoded⟩ | ⟨beyond, high⟩
    · obtain ⟨denoted, behind⟩ := readEscapedByte_encoded ascii rest
      rw [encoded, List.singleton_append, denotedBytes_escape, denoted, ← behind, ih,
        List.singleton_append]
    · obtain ⟨byte, bytes, encoded⟩ := exists_utf8EncodeChar_eq_cons lead
      have plain : ∀ other ∈ bytes, other ≠ 0x5C := by
        rintro other member rfl
        exact absurd (high _ (encoded ▸ List.mem_cons_of_mem _ member)) (by decide)
      rw [readEscape_of_beyond beyond] at ih ⊢
      rw [Piece.denoted, encoded, List.cons_append, denotedBytes_escape,
        readEscapedByte_of_beyond (high byte (encoded ▸ List.mem_cons_self)),
        denotedBytes_append plain, ih, List.map_cons, List.cons_append]
  | case2 first rest noEscape ih =>
    by_cases plain : first = '\\'
    · subst plain
      cases rest with
      | nil => decide +kernel
      | cons lead rest => exact absurd rfl (noEscape lead rest rfl)
    · rw [pieces_cons plain, List.flatMap_cons, List.flatMap_cons,
        denotedBytes_append (backslash_not_mem_utf8EncodeChar plain), ih, Piece.denoted]
  | case3 => rw [pieces_nil, List.flatMap_nil, List.flatMap_nil, denotedBytes]

/-! ### Runs of bytes -/

theorem runsAreValid_map_numbered_iff {run : List UInt8} :
    RunsAreValid (run.map (DenotedByte.mk · true)) ↔ ByteArray.IsValidUTF8 run.toByteArray := by
  have single : (run.map (DenotedByte.mk · true)).splitOnP (fun byte => !byte.numbered) =
      [run.map (DenotedByte.mk · true)] := by
    apply List.splitOnP_eq_singleton
    simp
  have values : (run.map (DenotedByte.mk · true)).map DenotedByte.value = run := by
    rw [List.map_map]
    exact List.map_id run
  rw [RunsAreValid, single, List.forall_mem_singleton, values]

/-- A byte that no number stands for separates the runs before it from those behind it. -/
theorem runsAreValid_append_cons_iff {before after : List DenotedByte} {byte : UInt8} :
    RunsAreValid (before ++ ⟨byte, false⟩ :: after) ↔ RunsAreValid before ∧ RunsAreValid after := by
  rw [RunsAreValid, List.splitOnP_append_cons before after (Bool.not_false), List.forall_mem_append]
  rfl

theorem RunsAreValid.of_append {bytes : List UInt8} {after : List DenotedByte}
    (valid : RunsAreValid (bytes.map (DenotedByte.mk · false) ++ after)) : RunsAreValid after := by
  induction bytes with
  | nil => exact valid
  | cons byte bytes ih =>
    rw [List.map_cons, List.cons_append, ← List.nil_append (_ :: _), runsAreValid_append_cons_iff]
      at valid
    exact ih valid.2

/-- **The bytes of assembled pieces** are those that the pieces denote, if the runs are valid. -/
theorem encoded_assembleAfter {run : List UInt8} {all : List Piece}
    (valid : RunsAreValid (run.map (DenotedByte.mk · true) ++ all.flatMap Piece.denoted)) :
    (assembleAfter run all).flatMap String.utf8EncodeChar =
      run ++ (all.flatMap Piece.denoted).map DenotedByte.value := by
  fun_induction assembleAfter run all with
  | case1 run =>
    rw [List.flatMap_nil, List.append_nil] at valid
    rw [encoded_decodeRun (runsAreValid_map_numbered_iff.mp valid), List.flatMap_nil, List.map_nil,
      List.append_nil]
  | case2 run byte rest ih =>
    rw [ih (by simpa [Piece.denoted] using valid), List.flatMap_cons, Piece.denoted, List.map_append,
      List.append_assoc]
    rfl
  | case3 run character rest ih =>
    -- The first byte of the character ends the run, so that the run is valid on its own.
    obtain ⟨byte, bytes, encoded⟩ := exists_utf8EncodeChar_eq_cons character
    rw [List.flatMap_cons, Piece.denoted, encoded, List.map_cons, List.cons_append,
      runsAreValid_append_cons_iff, runsAreValid_map_numbered_iff] at valid
    obtain ⟨validRun, behind⟩ := valid
    have values : (Piece.denoted (.character character)).map DenotedByte.value =
        String.utf8EncodeChar character := by
      rw [Piece.denoted, List.map_map]
      exact List.map_id _
    rw [List.flatMap_append, encoded_decodeRun validRun, List.flatMap_cons, ih behind.of_append,
      List.flatMap_cons, List.map_append, values]
    rfl

end Escape

/-- **Escapes can be undone in the bytes of a text.** If every longest run of bytes that numbers stand
for is valid UTF-8, then the bytes of the text without escapes are the bytes of the text with the
escapes undone among them. -/
theorem unescape_agrees_with_bytes (text : String)
    (valid : Escape.RunsAreValid (Escape.denotedBytes text.toUTF8.data.toList)) :
    (unescape text).toUTF8.data.toList = Escape.unescapeBytes text.toUTF8.data.toList := by
  rw [toList_toUTF8, Escape.denotedBytes_encoded] at valid
  rw [toList_toUTF8, toList_toUTF8, unescape, String.toList_ofList, Escape.unescapeBytes,
    Escape.denotedBytes_encoded]
  exact Escape.encoded_assembleAfter valid

/-- A run of two numbers, an escaped character of two bytes, an octal number beyond a byte, a number
of one digit, a letter, and a backslash at the end. -/
theorem unescape_mixed_bytes :
    Escape.RunsAreValid
        (Escape.denotedBytes "\\xC3\\251-\\é\\501\\x9g\\n\\".toUTF8.data.toList) ∧
      (unescape "\\xC3\\251-\\é\\501\\x9g\\n\\").toUTF8.data.toList =
        [0xC3, 0xA9, 0x2D, 0xC3, 0xA9, 0x41, 0x09, 0x67, 0x0A, 0x5C] := by
  have valid : Escape.RunsAreValid
      (Escape.denotedBytes "\\xC3\\251-\\é\\501\\x9g\\n\\".toUTF8.data.toList) := by
    decide +kernel
  refine ⟨valid, (unescape_agrees_with_bytes _ valid).trans ?_⟩
  decide +kernel

end MessageHarvest
