/-!
# Sets of code points

Character properties are finite unions of intervals of code points. `CodeRanges` lists
the intervals, and `CodeRanges.has` decides membership in their union.
-/

namespace ObjectPath.Text

/-- A set of code points, given by closed intervals `(first, last)`. -/
abbrev CodeRanges := List (Nat × Nat)

/-- The character lies in one of the intervals. -/
def CodeRanges.has (ranges : CodeRanges) (c : Char) : Bool :=
  ranges.any fun r => r.1 ≤ c.toNat && c.toNat ≤ r.2

theorem CodeRanges.has_iff (ranges : CodeRanges) (c : Char) :
    ranges.has c = true ↔ ∃ r ∈ ranges, r.1 ≤ c.toNat ∧ c.toNat ≤ r.2 := by
  simp [CodeRanges.has, List.any_eq_true]

end ObjectPath.Text
