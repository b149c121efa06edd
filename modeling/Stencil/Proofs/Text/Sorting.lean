import Stencil.Proofs.Numeric.Digits
import Mathlib.Data.String.Basic
import Mathlib.Tactic.Tauto

/-!
# Texts that sort like numbers

A way to write things as texts of one length sorts by a number if the texts are ordered as the numbers are (`SortsBy`). Digits
that are filled up to a width sort by the number they write (`sortsBy_paddedDigits`), and two such texts one behind the other
sort by both numbers, the first of which counts more (`SortsBy.append`).
-/

namespace Stencil
namespace Text

open Numeric (digitsValue digitsValue_cons digitsValue_lt_pow digitsValue_paddedDigits isDigit_of_mem_paddedDigits
  length_paddedDigits paddedDigits)

/-! ## The order of texts -/

section Order

variable {front front' back back' : List Char}

theorem append_lt_append_iff (h : front.length = front'.length) :
    front ++ back < front' ++ back' ↔ front < front' ∨ front = front' ∧ back < back' := by
  induction front generalizing front' with
  | nil =>
      obtain rfl := List.length_eq_zero_iff.mp h.symm
      simp
  | cons c front ih =>
      cases front' with
      | nil => cases h
      | cons d front' =>
          have hback := ih (Nat.succ.inj h)
          rw [List.cons_append, List.cons_append, List.cons_lt_cons_iff, List.cons_lt_cons_iff, hback, List.cons.injEq]
          tauto

/-- Digits are ordered by the numbers they write if there are as many of them. -/
theorem lt_iff_digitsValue_lt (hfront : ∀ c, c ∈ front → c.isDigit = true) (hback : ∀ c, c ∈ back → c.isDigit = true)
    (h : front.length = back.length) : front < back ↔ digitsValue front < digitsValue back := by
  induction front generalizing back with
  | nil =>
      obtain rfl := List.length_eq_zero_iff.mp h.symm
      simp
  | cons c front ih =>
      cases back with
      | nil => cases h
      | cons d back =>
          rw [List.forall_mem_cons] at hfront hback
          have hlength : front.length = back.length := Nat.succ.inj h
          have hc := (Char.isDigit_iff_toNat.mp hfront.1).1
          have hd := (Char.isDigit_iff_toNat.mp hback.1).1
          have hfrontValue := digitsValue_lt_pow hfront.2
          have hbackValue := digitsValue_lt_pow hback.2
          rw [hlength] at hfrontValue
          rw [List.cons_lt_cons_iff, ih hfront.2 hback.2 hlength, digitsValue_cons, digitsValue_cons, hlength]
          -- the first digit counts more than all the others can
          obtain hlt | rfl | hgt := lt_trichotomy c d
          · have hlt' : c.toNat - '0'.toNat + 1 ≤ d.toNat - '0'.toNat := by
              have : c.toNat < d.toNat := hlt
              omega
            have hstep := Nat.mul_le_mul_right (10 ^ back.length) hlt'
            rw [Nat.add_one_mul] at hstep
            exact iff_of_true (.inl hlt) (by omega)
          · simp
          · have hgt' : d.toNat - '0'.toNat + 1 ≤ c.toNat - '0'.toNat := by
              have : d.toNat < c.toNat := hgt
              omega
            have hstep := Nat.mul_le_mul_right (10 ^ back.length) hgt'
            rw [Nat.add_one_mul] at hstep
            exact iff_of_false (not_or.mpr ⟨hgt.not_gt, fun heq => hgt.ne' heq.1⟩) (by omega)

end Order

/-! ## Sorting by a number -/

/-- Texts of one length, which are ordered as some numbers are. -/
structure SortsBy {α : Type*} (shown : α → List Char) (key : α → ℕ) : Prop where
  length_eq : ∀ a b, (shown a).length = (shown b).length
  lt_iff : ∀ a b, shown a < shown b ↔ key a < key b

namespace SortsBy

variable {α : Type*} {shown first second : α → List Char} {key other firstKey secondKey : α → ℕ}

theorem eq_iff (h : SortsBy shown key) (a b : α) : shown a = shown b ↔ key a = key b := by
  have hlt := h.lt_iff a b
  have hgt := h.lt_iff b a
  rw [le_antisymm_iff, le_antisymm_iff, ← not_lt, ← not_lt, ← not_lt, ← not_lt, hlt, hgt]

theorem le_iff (h : SortsBy shown key) (a b : α) : shown a ≤ shown b ↔ key a ≤ key b := by
  rw [← not_lt, ← not_lt, h.lt_iff b a]

/-- Texts that sort by a number sort by every number that orders the same way. -/
theorem congr (h : SortsBy shown key) (hkey : ∀ a b, key a < key b ↔ other a < other b) : SortsBy shown other :=
  ⟨h.length_eq, fun a b => (h.lt_iff a b).trans (hkey a b)⟩

/-- Things sort as parts of them do. -/
theorem comp {β : Type*} (h : SortsBy shown key) (part : β → α) : SortsBy (shown ∘ part) (key ∘ part) :=
  ⟨fun a b => h.length_eq (part a) (part b), fun a b => h.lt_iff (part a) (part b)⟩

/-- What stands in front counts more than all that can stand behind it. -/
theorem append (hfirst : SortsBy first firstKey) (hsecond : SortsBy second secondKey) {bound : ℕ}
    (hbound : ∀ a, secondKey a < bound) :
    SortsBy (fun a => first a ++ second a) fun a => firstKey a * bound + secondKey a := by
  refine ⟨fun a b => ?_, fun a b => ?_⟩
  · rw [List.length_append, List.length_append, hfirst.length_eq a b, hsecond.length_eq a b]
  · have ha := hbound a
    have hb := hbound b
    rw [append_lt_append_iff (hfirst.length_eq a b), hfirst.lt_iff, hfirst.eq_iff, hsecond.lt_iff]
    obtain hlt | heq | hgt := lt_trichotomy (firstKey a) (firstKey b)
    · have hstep := Nat.mul_le_mul_right bound (Nat.succ_le_of_lt hlt)
      rw [Nat.succ_mul] at hstep
      exact iff_of_true (.inl hlt) (by omega)
    · rw [heq]
      simp
    · have hstep := Nat.mul_le_mul_right bound (Nat.succ_le_of_lt hgt)
      rw [Nat.succ_mul] at hstep
      exact iff_of_false (by omega) (by omega)

/-- The same text in front of all does not change the order. -/
theorem behind (h : SortsBy shown key) (text : List Char) : SortsBy (fun a => text ++ shown a) key := by
  refine ⟨fun a b => ?_, fun a b => ?_⟩
  · rw [List.length_append, List.length_append, h.length_eq a b]
  · rw [append_lt_append_iff rfl, h.lt_iff]
    simp

/-- The same text at the end of all does not change the order. -/
theorem before (h : SortsBy shown key) (text : List Char) : SortsBy (fun a => shown a ++ text) key := by
  refine ⟨fun a b => ?_, fun a b => ?_⟩
  · rw [List.length_append, List.length_append, h.length_eq a b]
  · rw [append_lt_append_iff (h.length_eq a b), h.lt_iff]
    simp

end SortsBy

/-- Digits that are filled up to a width sort by the number they write. -/
theorem sortsBy_paddedDigits {α : Type*} {width : ℕ} {n : α → ℕ} (hwidth : 0 < width) (h : ∀ a, n a < 10 ^ width) :
    SortsBy (fun a => paddedDigits width (n a)) n := by
  have hlength : ∀ a b, (paddedDigits width (n a)).length = (paddedDigits width (n b)).length := fun a b => by
    rw [length_paddedDigits hwidth (h a), length_paddedDigits hwidth (h b)]
  refine ⟨hlength, fun a b => ?_⟩
  rw [lt_iff_digitsValue_lt (fun _ => isDigit_of_mem_paddedDigits) (fun _ => isDigit_of_mem_paddedDigits) (hlength a b),
    digitsValue_paddedDigits, digitsValue_paddedDigits]

end Text
end Stencil
