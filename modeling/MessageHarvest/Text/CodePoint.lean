/-
**Source text as code points.**

A program's source reaches the library as a sequence of code points in which lone halves of
surrogate pairs may occur. Such a half has no encoding, so a source is encoded only if it holds
none; otherwise the first maximal run of surrogates is reported.

* `SourceText.encode` — the text of a source without surrogates, or its first run of them.
* `SourceText.encode_ofString` — every text is the encoding of its own code points.
-/

namespace MessageHarvest

/-- A code point: a character, or one of the 2048 surrogates from `U+D800` on. -/
inductive CodePoint where
  | character (value : Char)
  | surrogate (offset : Fin 0x800)
deriving DecidableEq, Repr

namespace CodePoint

/-- The number of a code point. -/
def toNat : CodePoint → Nat
  | character value => value.toNat
  | surrogate offset => 0xD800 + offset.val

/-- The character at a code point, if there is one. -/
def char? : CodePoint → Option Char
  | character value => some value
  | surrogate _ => none

/-- Half of a surrogate pair. -/
def isSurrogate : CodePoint → Bool
  | character _ => false
  | surrogate _ => true

/-- The code point with a given number: a surrogate, or the character of that number. -/
def ofNat (code : Nat) : CodePoint :=
  if surrogate : 0xD800 ≤ code ∧ code < 0xE000 then
    .surrogate ⟨code - 0xD800, by omega⟩
  else
    .character (Char.ofNat code)

end CodePoint

/-- Source text: any sequence of code points. -/
abbrev SourceText := List CodePoint

/-- A maximal run of surrogates: where it starts, its first member, and how many follow that one. -/
structure SurrogateRun where
  position : Nat
  first : Fin 0x800
  others : Nat
deriving DecidableEq, Repr

namespace SourceText

/-- The code points of a text. -/
def ofString (text : String) : SourceText :=
  text.toList.map CodePoint.character

/-- The first maximal run of surrogates in text that stands at the given position. -/
def surrogateRunFrom? (position : Nat) : SourceText → Option SurrogateRun
  | [] => none
  | .character _ :: rest => surrogateRunFrom? (position + 1) rest
  | .surrogate first :: rest =>
    some { position, first, others := (rest.takeWhile CodePoint.isSurrogate).length }

/-- The text of a source, unless surrogates occur in it. -/
def encode (source : SourceText) : Except SurrogateRun String :=
  match surrogateRunFrom? 0 source with
  | some run => .error run
  | none => .ok (String.ofList (source.filterMap CodePoint.char?))

/-- Characters alone hold no run of surrogates. -/
theorem surrogateRunFrom?_map_character (position : Nat) (characters : List Char) :
    surrogateRunFrom? position (characters.map CodePoint.character) = none := by
  induction characters generalizing position with
  | nil => rfl
  | cons _ _ ih => exact ih (position + 1)

/-- Every text is the encoding of its own code points. -/
@[simp]
theorem encode_ofString (text : String) : encode (ofString text) = .ok text := by
  have characters : (text.toList.map CodePoint.character).filterMap CodePoint.char? =
      text.toList := by
    rw [List.filterMap_map]
    exact List.filterMap_some
  simp [encode, ofString, surrogateRunFrom?_map_character, characters]

end SourceText

end MessageHarvest
