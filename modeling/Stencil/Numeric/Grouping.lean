/-!
# Grouping digits

Digits are cut into groups of one size, counted from the right, and the groups are joined by a mark.
Only the leftmost group may be shorter.
-/

namespace Stencil
namespace Numeric

/-- The groups of a text, counted from its right end; a size of zero does not cut at all. -/
def groups (size : Nat) (text : List Char) : List (List Char) :=
  if _h : size = 0 ∨ text.length ≤ size then [text]
  else groups size (text.take (text.length - size)) ++ [text.drop (text.length - size)]
termination_by text.length
decreasing_by simp only [List.length_take]; omega

/-- The groups of a text, joined by a mark. -/
def grouped (size : Nat) (mark : Char) (text : List Char) : List Char :=
  [mark].intercalate (groups size text)

/-- Thousands, separated by commas. -/
def thousands (text : List Char) : List Char :=
  grouped 3 ',' text

/-- The least number of digits that, once they are grouped, fill a width. -/
def digitsToFill (size width : Nat) : Nat :=
  if size = 0 then width else width - (width - 1) / (size + 1)

end Numeric
end Stencil
