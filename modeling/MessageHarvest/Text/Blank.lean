/-
**Blank characters and trimming.**

The blank characters are those with the Unicode property `White_Space` and the four separator
controls `U+001C` to `U+001F`: 29 characters in 10 ranges.
-/

import MessageHarvest.Text.CodePoint
import MessageHarvest.Text.Ranges

namespace MessageHarvest.Text

/-- The code points of the blank characters, ascending and apart. -/
def blankRanges : CodeRanges :=
  [(0x9, 0xD), (0x1C, 0x20), (0x85, 0x85), (0xA0, 0xA0), (0x1680, 0x1680), (0x2000, 0x200A),
   (0x2028, 0x2029), (0x202F, 0x202F), (0x205F, 0x205F), (0x3000, 0x3000)]

theorem blankRanges_ascends : blankRanges.ascendsFrom 0 = true := by
  decide +kernel

end MessageHarvest.Text

namespace MessageHarvest

/-- A blank character. -/
def CodePoint.isBlank (point : CodePoint) : Bool :=
  Text.blankRanges.contains point.toNat

theorem CodePoint.isBlank_iff (point : CodePoint) :
    point.isBlank = true ↔ Text.blankRanges.Covers point.toNat :=
  Text.CodeRanges.contains_eq_true_iff Text.blankRanges_ascends point.toNat

/-- A surrogate is never blank. -/
theorem CodePoint.isBlank_surrogate (offset : Fin 0x800) : (surrogate offset).isBlank = false := by
  rw [Bool.eq_false_iff, ne_eq, isBlank_iff]
  rintro ⟨range, member, _, reached⟩
  have below : ∀ range ∈ Text.blankRanges, range.2 < 0xD800 := by decide
  have beyond : 0xD800 ≤ (surrogate offset).toNat := Nat.le_add_right _ _
  have bounded := below range member
  omega

/-- The text without the blank characters at its two ends. -/
def SourceText.trim (source : SourceText) : SourceText :=
  ((source.dropWhile CodePoint.isBlank).reverse.dropWhile CodePoint.isBlank).reverse

end MessageHarvest
