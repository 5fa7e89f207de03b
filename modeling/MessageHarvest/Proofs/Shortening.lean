/-
**Escapes make a text longer.**

An escape takes at least two characters and stands for at most one: a run of bytes is decoded to at
most as many characters as it has bytes, be it valid UTF-8 or not. Undoing the escapes of a text
therefore takes away at least one character for each of them, and only a text without escapes comes
out as it went in.

* `Escape.occurrences` — the number of escapes of a text.
* `length_unescape_add_occurrences_le` — each escape costs the text at least one character.
* `unescape_shortens` — which texts stay as they are, and which become shorter.
-/

import MessageHarvest.Proofs.Unescaping

namespace MessageHarvest

namespace Escape

/-! ### Counting escapes -/

/-- The number of escapes of a text. A backslash at the very end starts none. -/
def occurrences : List Char → Nat
  | '\\' :: lead :: rest => occurrences (readEscape lead rest).2 + 1
  | _ :: rest => occurrences rest
  | [] => 0
termination_by text => text.length
decreasing_by
  · exact Nat.lt_succ_of_le (Nat.le_succ_of_le (length_readEscape_le lead rest))
  · exact Nat.lt_succ_self _

/-- What is no backslash, or stands at the end, starts no escape. -/
theorem occurrences_cons {first : Char} {rest : List Char}
    (noEscape : ∀ lead others, first = '\\' → rest = lead :: others → False) :
    occurrences (first :: rest) = occurrences rest :=
  occurrences.eq_2 first rest noEscape

/-- **A text has escapes exactly if a backslash stands before its last character.** -/
theorem occurrences_eq_zero_iff (text : List Char) :
    occurrences text = 0 ↔ '\\' ∉ text.dropLast := by
  fun_induction occurrences text with
  | case1 lead rest ih => simp
  | case2 first rest noEscape ih =>
    cases rest with
    | nil => simp [occurrences]
    | cons second others =>
      have plain : '\\' ≠ first := fun backslash => noEscape second others backslash.symm rfl
      rw [ih, List.dropLast_cons_cons, List.mem_cons, not_or]
      exact (and_iff_right plain).symm
  | case3 => simp

/-- A text without escapes is read character by character. -/
theorem pieces_of_occurrences_eq_zero {text : List Char} (none : occurrences text = 0) :
    pieces text = text.map .character := by
  fun_induction pieces text with
  | case1 lead rest ih => simp [occurrences] at none
  | case2 first rest noEscape ih =>
    rw [occurrences_cons noEscape] at none
    rw [ih none, List.map_cons]
  | case3 => rfl

/-- An escape is one piece and takes two characters or more. -/
theorem length_pieces_add_occurrences_le (text : List Char) :
    (pieces text).length + occurrences text ≤ text.length := by
  fun_induction pieces text with
  | case1 lead rest ih =>
    have shorter := length_readEscape_le lead rest
    rw [occurrences]
    simp only [List.length_cons]
    omega
  | case2 first rest noEscape ih =>
    rw [occurrences_cons noEscape, List.length_cons, List.length_cons]
    omega
  | case3 => simp [occurrences]

/-! ### Runs of bytes -/

theorem length_le_length_flatMap_utf8EncodeChar (text : List Char) :
    text.length ≤ (text.flatMap String.utf8EncodeChar).length := by
  induction text with
  | nil => exact Nat.le_refl _
  | cons character text ih =>
    have positive : 0 < (String.utf8EncodeChar character).length :=
      List.length_pos_of_ne_nil String.utf8EncodeChar_ne_nil
    rw [List.flatMap_cons, List.length_append, List.length_cons]
    omega

/-- **A run is decoded to at most as many characters as it has bytes**, whichever way it is read. -/
theorem length_decodeRun_le (run : List UInt8) : (decodeRun run).length ≤ run.length := by
  by_cases valid : ByteArray.IsValidUTF8 run.toByteArray
  · calc
      (decodeRun run).length ≤ ((decodeRun run).flatMap String.utf8EncodeChar).length :=
        length_le_length_flatMap_utf8EncodeChar _
      _ = run.length := by rw [encoded_decodeRun valid]
  · have bytewise : decodeRun run = run.map Char.ofUInt8 := by
      have array : (⟨run.toArray⟩ : ByteArray) = run.toByteArray :=
        ByteArray.ext List.data_toByteArray.symm
      rw [decodeRun, array, String.fromUTF8?, dif_neg valid]
    rw [bytewise, List.length_map]

theorem length_assembleAfter_le (run : List UInt8) (all : List Piece) :
    (assembleAfter run all).length ≤ run.length + all.length := by
  fun_induction assembleAfter run all with
  | case1 run => exact length_decodeRun_le run
  | case2 run byte rest ih =>
    rw [List.length_append, List.length_singleton] at ih
    rw [List.length_cons]
    omega
  | case3 run character rest ih =>
    have decoded := length_decodeRun_le run
    rw [List.length_nil] at ih
    rw [List.length_append, List.length_cons, List.length_cons]
    omega

theorem assemble_map_character (text : List Char) : assemble (text.map .character) = text := by
  induction text with
  | nil => exact decodeRun_flatMap_utf8EncodeChar []
  | cons character text ih =>
    have others : assembleAfter [] (text.map .character) = text := ih
    rw [List.map_cons, assemble, assembleAfter, others]
    exact congrArg (· ++ character :: text) (decodeRun_flatMap_utf8EncodeChar [])

end Escape

/-- **Each escape costs the text at least one character.** -/
theorem length_unescape_add_occurrences_le (text : String) :
    (unescape text).length + Escape.occurrences text.toList ≤ text.length := by
  have assembled := Escape.length_assembleAfter_le [] (Escape.pieces text.toList)
  have read := Escape.length_pieces_add_occurrences_le text.toList
  rw [List.length_nil, Nat.zero_add] at assembled
  rw [unescape, String.length_ofList, ← String.length_toList]
  exact Nat.le_trans (Nat.add_le_add_right assembled _) read

/-- A text without escapes stands for itself. -/
theorem unescape_of_occurrences_eq_zero {text : String}
    (none : Escape.occurrences text.toList = 0) : unescape text = text := by
  rw [unescape, Escape.pieces_of_occurrences_eq_zero none, Escape.assemble_map_character,
    String.ofList_toList]

/-- **Undoing escapes never makes a text longer.** A text stays as it is exactly if no backslash
stands before its last character, and any other text becomes shorter. -/
theorem unescape_shortens (text : String) :
    (unescape text).length ≤ text.length ∧
      (unescape text = text ↔ '\\' ∉ text.toList.dropLast) ∧
      ((unescape text).length < text.length ↔ '\\' ∈ text.toList.dropLast) := by
  have cost := length_unescape_add_occurrences_le text
  have kept : '\\' ∉ text.toList.dropLast → unescape text = text := fun absent =>
    unescape_of_occurrences_eq_zero ((Escape.occurrences_eq_zero_iff text.toList).mpr absent)
  have shortened : '\\' ∈ text.toList.dropLast → (unescape text).length < text.length := by
    intro present
    have some : Escape.occurrences text.toList ≠ 0 := fun none =>
      (Escape.occurrences_eq_zero_iff text.toList).mp none present
    omega
  refine ⟨Nat.le_of_add_right_le cost, ⟨fun same present => ?_, kept⟩, ⟨fun shorter => ?_, shortened⟩⟩
  · have shorter := shortened present
    rw [same] at shorter
    exact Nat.lt_irrefl _ shorter
  · by_contra absent
    rw [kept absent] at shorter
    exact Nat.lt_irrefl _ shorter

end MessageHarvest
