/-!
# Sets of characters given by ranges

A character class of a standard is a table of closed ranges of code points. This module holds the
membership test; the tables stand in modules of their own, named for the property.
-/

namespace Stencil
namespace Text

/-- A table of closed ranges of code points, in increasing order. -/
abbrev CharRanges := List (Nat × Nat)

/-- A character belongs to a table when one of its ranges holds the code point. -/
def CharRanges.has (ranges : CharRanges) (c : Char) : Bool :=
  ranges.any fun range => range.1 ≤ c.toNat && c.toNat ≤ range.2

theorem CharRanges.has_iff (ranges : CharRanges) (c : Char) :
    ranges.has c = true ↔ ∃ range ∈ ranges, range.1 ≤ c.toNat ∧ c.toNat ≤ range.2 := by
  simp [CharRanges.has]

end Text
end Stencil
