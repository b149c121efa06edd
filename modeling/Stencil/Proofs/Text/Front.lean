import Mathlib.Data.List.TakeWhile

/-!
# Fronts of texts

A text is cut where its characters stop being of one kind. What is before the cut is the longest front of this kind
(`isLongestFront_takeWhile`), what is behind it starts with a character of another kind, if it is not empty
(`head?_dropWhile_eq_some`), and there is only one such cut (`takeWhile_dropWhile_append`).
-/

namespace Stencil
namespace Text

/-- The longest part at the front of a text all of whose characters are of one kind. -/
structure IsLongestFront (kind : Char → Bool) (text front : List Char) : Prop where
  isFront : front <+: text
  isKind : ∀ c, c ∈ front → kind c = true
  isLongest : ∀ other, other <+: text → (∀ c, c ∈ other → kind c = true) → other <+: front

variable {kind : Char → Bool} {text front rest : List Char}

theorem isLongestFront_takeWhile : IsLongestFront kind text (text.takeWhile kind) := by
  refine ⟨List.takeWhile_prefix kind, fun c => List.mem_takeWhile_imp, ?_⟩
  rintro other ⟨rest, rfl⟩ hother
  rw [List.takeWhile_append_of_pos hother]
  exact List.prefix_append other _

theorem head?_dropWhile_eq_some {c : Char} (h : (text.dropWhile kind).head? = some c) :
    kind c = false := by
  have hnot := List.head?_dropWhile_not kind text
  rw [h] at hnot
  exact hnot

/-- A text is cut where its characters stop being of one kind, and only there. -/
theorem takeWhile_dropWhile_append (hfront : ∀ c, c ∈ front → kind c = true)
    (hrest : ∀ c, rest.head? = some c → kind c = false) :
    (front ++ rest).takeWhile kind = front ∧ (front ++ rest).dropWhile kind = rest := by
  rw [List.takeWhile_append_of_pos hfront, List.dropWhile_append_of_pos hfront]
  cases rest with
  | nil => simp
  | cons c rest => simp [hrest c rfl]

end Text
end Stencil
