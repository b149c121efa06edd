/-!
# Occurrences of one text in another

The first and the last place at which a text occurs inside another. Occurrences may overlap, and the
empty text occurs at every place, the end included.
-/

namespace Stencil
namespace Text

/-- The text `word` occurs in `text` at the place `i`. -/
def OccursAt (word text : List Char) (i : Nat) : Prop :=
  i ≤ text.length ∧ word <+: text.drop i

/-- The first place at which a word occurs. -/
def firstOccurrence? (word : List Char) : List Char → Option Nat
  | [] => if word.isEmpty then some 0 else none
  | c :: text =>
      if word.isPrefixOf (c :: text) then some 0
      else (firstOccurrence? word text).map (· + 1)

/-- The last place at which a word occurs. -/
def lastOccurrence? (word : List Char) : List Char → Option Nat
  | [] => if word.isEmpty then some 0 else none
  | c :: text =>
      match lastOccurrence? word text with
      | some i => some (i + 1)
      | none => if word.isPrefixOf (c :: text) then some 0 else none

end Text
end Stencil
