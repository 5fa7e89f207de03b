/-
**Sets of code points as ascending ranges.**

The properties that the Unicode character database assigns to characters are kept as lists of closed
ranges, ascending and apart. A look-up then stops at the first range that does not lie wholly below
the code point.

* `CodeRanges.contains_eq_true_iff` — in ascending ranges the look-up finds exactly what they cover.
-/

namespace MessageHarvest.Text

/-- Closed ranges of code points, each given by its least and its greatest member. -/
abbrev CodeRanges := List (Nat × Nat)

namespace CodeRanges

/-- The code lies in one of the ranges. -/
def Covers (ranges : CodeRanges) (code : Nat) : Prop :=
  ∃ range ∈ ranges, range.1 ≤ code ∧ code ≤ range.2

/-- Membership in ascending ranges: the first range that reaches up to the code decides. -/
def contains : CodeRanges → Nat → Bool
  | [], _ => false
  | (least, greatest) :: ranges, code =>
    if greatest < code then contains ranges code else decide (least ≤ code)

/-- No range is empty, none starts below the bound, and each starts behind the one before it. -/
def ascendsFrom (bound : Nat) : CodeRanges → Bool
  | [] => true
  | (least, greatest) :: ranges =>
    decide (bound ≤ least) && decide (least ≤ greatest) && ascendsFrom (greatest + 1) ranges

/-- Ascending ranges do not start below their bound. -/
theorem le_of_ascendsFrom {bound : Nat} {ranges : CodeRanges} (ascends : ranges.ascendsFrom bound)
    {range : Nat × Nat} (member : range ∈ ranges) : bound ≤ range.1 := by
  induction ranges generalizing bound with
  | nil => cases member
  | cons first ranges ih =>
    obtain ⟨least, greatest⟩ := first
    simp only [ascendsFrom, Bool.and_eq_true, decide_eq_true_eq] at ascends
    rcases List.mem_cons.mp member with rfl | member
    · exact ascends.1.1
    · have behind := ih ascends.2 member
      omega

/-- In ascending ranges the look-up finds exactly the codes that lie in one of the ranges. -/
theorem contains_eq_true_iff {bound : Nat} {ranges : CodeRanges}
    (ascends : ranges.ascendsFrom bound) (code : Nat) :
    ranges.contains code = true ↔ ranges.Covers code := by
  unfold Covers
  induction ranges generalizing bound with
  | nil => simp [contains]
  | cons first ranges ih =>
    obtain ⟨least, greatest⟩ := first
    simp only [ascendsFrom, Bool.and_eq_true, decide_eq_true_eq] at ascends
    by_cases below : greatest < code
    · simp only [contains, if_pos below, ih ascends.2, List.mem_cons, exists_eq_or_imp]
      exact ⟨Or.inr, fun either => either.resolve_left fun within => by omega⟩
    · simp only [contains, if_neg below, decide_eq_true_eq, List.mem_cons, exists_eq_or_imp]
      refine ⟨fun reached => Or.inl ⟨reached, by omega⟩, fun either => ?_⟩
      rcases either with within | ⟨other, member, reached, _⟩
      · exact within.1
      · have behind := le_of_ascendsFrom ascends.2 member
        omega

end CodeRanges

end MessageHarvest.Text
