/-
**Bytes and characters.**

A tree speaks of its source by offsets of bytes, while the source is a text. An offset is a boundary
if it does not cut a character in two. Between two boundaries stands a text of its own, and as many
newline bytes stand before a boundary as newline characters.

* `IsBoundary` — an offset between two characters of a text, or at one of its ends.
* `IsBoundary.exists_middle` — what stands between the end of a part of the text and a boundary.
* `decode_middle` — cutting the bytes of a text at boundaries gives back the text between them.
* `utf8EncodeChar_cases` — the bytes of a character.
* `newlineBytes_append` — newlines may be counted in bytes or in characters.
-/

import Mathlib.Data.List.Infix
import MessageHarvest.Tree.Tokens

namespace MessageHarvest

/-! ### Boundaries -/

/-- The offset lies inside the bytes of a text or at their end, and not inside a character. -/
def IsBoundary (text : String) (offset : Nat) : Prop :=
  (String.Pos.Raw.mk offset).IsValid text

instance (text : String) (offset : Nat) : Decidable (IsBoundary text offset) :=
  inferInstanceAs (Decidable ((String.Pos.Raw.mk offset).IsValid text))

namespace IsBoundary

/-- At a boundary a text falls into two. -/
theorem exists_append {text : String} {offset : Nat} (boundary : IsBoundary text offset) :
    ∃ before after, text = before ++ after ∧ before.utf8ByteSize = offset := by
  obtain ⟨before, after, split, position⟩ := String.Pos.Raw.isValid_iff_exists_append.mp boundary
  exact ⟨before, after, split, (congrArg String.Pos.Raw.byteIdx position).symm⟩

/-- **What stands before a boundary.** A part of the text that does not reach beyond a boundary is
followed by the text up to the boundary. -/
theorem exists_middle {before rest : String} {offset : Nat}
    (boundary : IsBoundary (before ++ rest) offset) (reaches : before.utf8ByteSize ≤ offset) :
    ∃ middle after, rest = middle ++ after ∧ (before ++ middle).utf8ByteSize = offset := by
  obtain ⟨first, second, split, size⟩ := boundary.exists_append
  have characters := congrArg String.toList split
  rw [String.toList_append, String.toList_append] at characters
  rcases List.append_eq_append_iff.mp characters with ⟨middle, longer, next⟩ | ⟨middle, longer, next⟩
  · refine ⟨String.ofList middle, second, ?_, ?_⟩
    · rw [← String.toList_inj, String.toList_append, String.toList_ofList, next]
    · rw [← size]
      congr 1
      rw [← String.toList_inj, String.toList_append, String.toList_ofList, longer]
  · -- The boundary cannot stand before the end of the part, so that nothing is missing.
    have whole : before = first ++ String.ofList middle := by
      rw [← String.toList_inj, String.toList_append, String.toList_ofList, longer]
    have none : (String.ofList middle).utf8ByteSize = 0 := by
      rw [whole, String.utf8ByteSize_append] at reaches
      omega
    refine ⟨"", rest, String.empty_append.symm, ?_⟩
    rw [String.append_empty, whole, String.utf8ByteSize_append, none, Nat.add_zero, size]

end IsBoundary

/-! ### Slices -/

theorem fromUTF8?_toUTF8 (text : String) : String.fromUTF8? text.toUTF8 = some text :=
  dif_pos text.isValidUTF8

/-- Cutting the bytes of a text behind its first part and behind its second leaves the second. -/
theorem extract_middle (before middle after : String) :
    (before ++ middle ++ after).toUTF8.extract before.utf8ByteSize (before ++ middle).utf8ByteSize =
      middle.toUTF8 := by
  have behind := ByteArray.extract_append_size_add (a := before.toByteArray)
    (b := middle.toByteArray ++ after.toByteArray) (i := 0) (j := middle.toByteArray.size)
  rw [ByteArray.extract_append_eq_left rfl] at behind
  rw [String.append_assoc, String.utf8ByteSize_append]
  simpa only [String.toUTF8_eq_toByteArray, String.toByteArray_append, String.size_toByteArray,
    Nat.add_zero] using behind

theorem decode_eq_ok_iff {bytes : ByteArray} {first last : Nat} {text : String} :
    decode bytes first last = .ok text ↔ slice bytes first last = some text := by
  unfold decode
  cases slice bytes first last <;> simp

/-- **A slice between two boundaries is the text between them.** -/
theorem decode_middle (before middle after : String) :
    decode (before ++ middle ++ after).toUTF8 before.utf8ByteSize (before ++ middle).utf8ByteSize =
      .ok middle := by
  have total : (before ++ middle ++ after).toUTF8.size =
      before.utf8ByteSize + middle.utf8ByteSize + after.utf8ByteSize := by
    rw [String.toUTF8_eq_toByteArray, String.size_toByteArray, String.utf8ByteSize_append,
      String.utf8ByteSize_append]
  have first : min before.utf8ByteSize (before ++ middle ++ after).toUTF8.size =
      before.utf8ByteSize := by
    rw [total]
    omega
  have last : min (before ++ middle).utf8ByteSize (before ++ middle ++ after).toUTF8.size =
      (before ++ middle).utf8ByteSize := by
    rw [total, String.utf8ByteSize_append]
    omega
  rw [decode_eq_ok_iff, slice, first, last, extract_middle, fromUTF8?_toUTF8]

/-! ### The bytes of a character -/

/-- **The bytes of a character**: either its number is its only byte, or every byte has its highest
bit set. -/
theorem utf8EncodeChar_cases (character : Char) :
    (character.toNat < 0x80 ∧ String.utf8EncodeChar character = [UInt8.ofNat character.toNat]) ∨
      (0x80 ≤ character.toNat ∧ ∀ byte ∈ String.utf8EncodeChar character, 0x80 ≤ byte.toNat) := by
  simp only [String.utf8EncodeChar, Char.toNat_val]
  split_ifs with one two three
  · exact Or.inl ⟨Nat.lt_succ_of_le one, rfl⟩
  all_goals
    refine Or.inr ⟨Nat.lt_of_not_le one, ?_⟩
    simp only [List.forall_mem_cons, UInt8.toNat_ofNat', List.not_mem_nil, false_implies,
      forall_const, and_true]
    omega

theorem exists_utf8EncodeChar_eq_cons (character : Char) :
    ∃ byte bytes, String.utf8EncodeChar character = byte :: bytes :=
  List.exists_cons_of_ne_nil String.utf8EncodeChar_ne_nil

/-- Characters of one byte are told apart by it. -/
theorem eq_of_ofNat_toNat_eq {first second : Char} (ascii : first.toNat < 0x80)
    (otherAscii : second.toNat < 0x80)
    (same : UInt8.ofNat first.toNat = UInt8.ofNat second.toNat) : first = second := by
  have numbers := congrArg UInt8.toNat same
  rw [UInt8.toNat_ofNat', UInt8.toNat_ofNat'] at numbers
  exact Char.toNat_inj.mp (by omega)

/-- The byte of a character that has no other occurs in the encoding of that character only. -/
theorem not_mem_utf8EncodeChar {character other : Char} (differs : character ≠ other)
    (ascii : other.toNat < 0x80) :
    UInt8.ofNat other.toNat ∉ String.utf8EncodeChar character := by
  intro member
  rcases utf8EncodeChar_cases character with ⟨single, encoded⟩ | ⟨_, high⟩
  · rw [encoded, List.mem_singleton] at member
    exact differs (eq_of_ofNat_toNat_eq single ascii member.symm)
  · have bound := high _ member
    rw [UInt8.toNat_ofNat'] at bound
    omega

/-! ### Newlines -/

/-- The number of newlines of a text. -/
def newlines (text : String) : Nat :=
  text.toList.count '\n'

/-- The number of newline bytes before an offset. -/
def newlineBytes (bytes : ByteArray) (offset : Nat) : Nat :=
  (bytes.data.toList.take offset).count 0x0A

theorem count_utf8EncodeChar (character : Char) :
    (String.utf8EncodeChar character).count 0x0A = if character = '\n' then 1 else 0 := by
  split
  · next same =>
    rw [same]
    rfl
  · next differs => exact List.count_eq_zero.mpr (not_mem_utf8EncodeChar differs (by decide))

/-- The bytes of a text are those of its characters. -/
theorem toList_toUTF8 (text : String) :
    text.toUTF8.data.toList = text.toList.flatMap String.utf8EncodeChar := by
  rw [String.toUTF8_eq_toByteArray, ← String.utf8Encode_toList, List.utf8Encode,
    List.toList_data_toByteArray]

theorem count_flatMap_utf8EncodeChar (characters : List Char) :
    (characters.flatMap String.utf8EncodeChar).count 0x0A = characters.count '\n' := by
  induction characters with
  | nil => rfl
  | cons character characters ih =>
    rw [List.flatMap_cons, List.count_append, count_utf8EncodeChar, ih, List.count_cons, Nat.add_comm]
    simp

/-- **Newlines may be counted in bytes or in characters.** -/
theorem newlineBytes_append (before after : String) :
    newlineBytes (before ++ after).toUTF8 before.utf8ByteSize = newlines before := by
  have size : before.toUTF8.data.toList.length = before.utf8ByteSize := rfl
  have bytes : (before ++ after).toUTF8.data.toList =
      before.toUTF8.data.toList ++ after.toUTF8.data.toList := by
    rw [toList_toUTF8, String.toList_append, List.flatMap_append, toList_toUTF8, toList_toUTF8]
  rw [newlineBytes, bytes, ← size, List.take_left, toList_toUTF8, count_flatMap_utf8EncodeChar, newlines]

end MessageHarvest
