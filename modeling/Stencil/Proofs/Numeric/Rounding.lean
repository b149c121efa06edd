import Stencil.Numeric.Digits
import Stencil.Numeric.Rounding
import Mathlib.Algebra.Order.Floor.Semifield
import Mathlib.Data.Rat.Floor
import Mathlib.Tactic.Linarith
import Mathlib.Tactic.Positivity
import Mathlib.Tactic.FieldSimp
import Mathlib.Tactic.Ring

/-!
# Rounding rational numbers

The quotients that the library rounds stand for rational numbers: `Tie.nearest` is the natural number nearest to a rational
one, and rounding a quotient gives just this (`nearest_div`). A whole number is nearest to itself (`nearest_natCast`).
-/

namespace Stencil
namespace Numeric

/-- Rounding a quotient that is a whole number keeps it. -/
theorem roundedQuotient_mul (tie : Tie) (n : ℕ) {den : ℕ} (hden : 0 < den) : roundedQuotient tie (n * den) den = n := by
  rw [roundedQuotient, Nat.mul_div_cancel _ hden, Nat.mul_mod_left, Tie.roundsUp, Nat.mul_zero,
    Nat.compare_eq_lt.mpr hden]
  rfl

/-- A number that has no more decimals than some places has no more than further ones. -/
theorem exists_mul_pow_of_le {q : ℚ} {few many : ℕ} (hle : few ≤ many) (h : ∃ m : ℤ, q * 10 ^ few = m) :
    ∃ m : ℤ, q * 10 ^ many = m := by
  obtain ⟨m, hm⟩ := h
  obtain ⟨more, rfl⟩ := Nat.exists_eq_add_of_le hle
  refine ⟨m * 10 ^ more, ?_⟩
  rw [pow_add, ← mul_assoc, hm]
  push_cast
  rfl

namespace Tie

/-- The natural number nearest to a rational number that is not negative. From half way it is the next one, or, if the tie
goes to the even neighbour, the one of the two that is even. -/
def nearest (tie : Tie) (x : ℚ) : ℕ :=
  if x - ⌊x⌋₊ < 1 / 2 ∨ x - ⌊x⌋₊ = 1 / 2 ∧ tie = .toEven ∧ Even ⌊x⌋₊ then ⌊x⌋₊ else ⌊x⌋₊ + 1

/-- A rational number rounded to a number of decimal places, on the side of zero where it is. -/
def rounded (tie : Tie) (places : ℕ) (x : ℚ) : ℚ :=
  (if x < 0 then -1 else 1) * (tie.nearest (|x| * 10 ^ places) / 10 ^ places)

@[simp] theorem nearest_natCast (tie : Tie) (n : ℕ) : tie.nearest n = n := by
  simp [nearest]

@[simp] theorem nearest_zero (tie : Tie) : tie.nearest 0 = 0 := by
  exact_mod_cast tie.nearest_natCast 0

theorem nearest_eq_zero {tie : Tie} {x : ℚ} (h : x < 1 / 2) : tie.nearest x = 0 := by
  have hfloor : ⌊x⌋₊ = 0 := by
    rw [Nat.floor_eq_zero]
    linarith
  rw [nearest, if_pos, hfloor]
  left
  simpa [hfloor] using h

/-- A number is at most half a unit away from the nearest one. -/
theorem abs_nearest_sub_le (tie : Tie) {x : ℚ} (hx : 0 ≤ x) : |(tie.nearest x : ℚ) - x| ≤ 1 / 2 := by
  have hlower : (⌊x⌋₊ : ℚ) ≤ x := Nat.floor_le hx
  have hupper : x < ⌊x⌋₊ + 1 := Nat.lt_floor_add_one x
  rw [nearest]
  split
  · next hdown =>
      have hpart : x - ⌊x⌋₊ ≤ 1 / 2 := hdown.elim le_of_lt fun hhalf => hhalf.1.le
      rw [abs_sub_comm, abs_of_nonneg (sub_nonneg.mpr hlower)]
      exact hpart
  · next hup =>
      rw [not_or, not_lt] at hup
      push_cast
      rw [abs_of_pos (by linarith)]
      linarith [hup.1]

/-- No other natural number is as near as one that is less than half a unit away. -/
theorem nearest_eq_of_abs_sub_lt {tie : Tie} {x : ℚ} {n : ℕ} (hx : 0 ≤ x) (h : |(n : ℚ) - x| < 1 / 2) :
    tie.nearest x = n := by
  have hnear := abs_le.mp (tie.abs_nearest_sub_le hx)
  have hn := abs_lt.mp h
  have hbelow : (tie.nearest x : ℚ) < n + 1 := by linarith
  have habove : (n : ℚ) < tie.nearest x + 1 := by linarith
  have hbelow' : tie.nearest x < n + 1 := by exact_mod_cast hbelow
  have habove' : n < tie.nearest x + 1 := by exact_mod_cast habove
  omega

/-- Rounding a quotient is rounding the rational number that it stands for. -/
theorem nearest_div (tie : Tie) (num : ℕ) {den : ℕ} (hden : 0 < den) :
    tie.nearest (num / den) = roundedQuotient tie num den := by
  have hfloor : ⌊(num / den : ℚ)⌋₊ = num / den := Nat.floor_div_eq_div num den
  have hden' : (0 : ℚ) < den := by exact_mod_cast hden
  have hpart : (num / den : ℚ) - ((num / den : ℕ) : ℚ) = ((num % den : ℕ) : ℚ) / den := by
    have hnum : ((den * (num / den) + num % den : ℕ) : ℚ) = num := by
      rw [Nat.div_add_mod]
    push_cast at hnum
    field_simp
    linarith
  have hlt : ((num % den : ℕ) : ℚ) / den < 1 / 2 ↔ 2 * (num % den) < den := by
    rw [div_lt_div_iff₀ hden' two_pos, one_mul, mul_comm]
    exact_mod_cast Iff.rfl
  have heq : ((num % den : ℕ) : ℚ) / den = 1 / 2 ↔ 2 * (num % den) = den := by
    rw [div_eq_div_iff hden'.ne' two_ne_zero, one_mul, mul_comm]
    exact_mod_cast Iff.rfl
  simp only [nearest, hfloor, hpart, hlt, heq, roundedQuotient, Tie.roundsUp]
  obtain hless | hhalf | hmore := Nat.lt_trichotomy (2 * (num % den)) den
  · simp [Nat.compare_eq_lt.mpr hless, hless]
  · rw [Nat.compare_eq_eq.mpr hhalf]
    cases tie with
    | toEven =>
        rcases Nat.mod_two_eq_zero_or_one (num / den) with hwhole | hwhole
        · simp [hhalf, Nat.even_iff, hwhole]
        · simp [hhalf, Nat.even_iff, hwhole]
    | awayFromZero => simp [hhalf]
  · rw [Nat.compare_eq_gt.mpr hmore, if_neg (by omega)]
    rfl

theorem rounded_of_nonneg (tie : Tie) (places : ℕ) {x : ℚ} (hx : 0 ≤ x) :
    tie.rounded places x = tie.nearest (x * 10 ^ places) / 10 ^ places := by
  rw [rounded, if_neg hx.not_gt, one_mul, abs_of_nonneg hx]

theorem rounded_eq_rounded_iff {tie : Tie} {places : ℕ} {x y : ℚ} (hx : 0 ≤ x) (hy : 0 ≤ y) :
    tie.rounded places x = tie.rounded places y ↔ tie.nearest (x * 10 ^ places) = tie.nearest (y * 10 ^ places) := by
  have hten : (10 : ℚ) ^ places ≠ 0 := by positivity
  rw [rounded_of_nonneg tie places hx, rounded_of_nonneg tie places hy, div_left_inj' hten, Nat.cast_inj]

theorem rounded_neg (tie : Tie) (places : ℕ) (x : ℚ) : tie.rounded places (-x) = -tie.rounded places x := by
  obtain hneg | rfl | hpos := lt_trichotomy x 0
  · rw [rounded, rounded, abs_neg, if_pos hneg, if_neg (by linarith), one_mul, neg_one_mul, neg_neg]
  · rw [neg_zero, rounded_of_nonneg tie places le_rfl, zero_mul, nearest_zero, Nat.cast_zero, zero_div, neg_zero]
  · rw [rounded, rounded, abs_neg, if_neg hpos.not_gt, if_pos (by linarith), one_mul, neg_one_mul]

/-- A number is rounded to the one with the decimal places that is less than half a unit of the last of them away. -/
theorem rounded_eq_of_abs_sub_lt {tie : Tie} {places : ℕ} {x q : ℚ} {m : ℤ} (hm : q * 10 ^ places = m)
    (h : |q - x| * 10 ^ places < 1 / 2) : tie.rounded places x = q := by
  have hten : (0 : ℚ) < 10 ^ places := by positivity
  -- below zero, both change their sign
  wlog hx : 0 ≤ x generalizing x q m
  · have hneg : tie.rounded places (-x) = -q := by
      refine this (m := -m) ?_ ?_ (by linarith)
      · rw [neg_mul, hm, Int.cast_neg]
      · rwa [neg_sub_neg, abs_sub_comm]
    rwa [rounded_neg, neg_inj] at hneg
  have hnear : |(m : ℚ) - x * 10 ^ places| < 1 / 2 := by
    rwa [← hm, ← sub_mul, abs_mul, abs_of_pos hten]
  have hsize : (0 : ℚ) ≤ x * 10 ^ places := by positivity
  have hmpos : (-1 : ℚ) < m := by linarith [(abs_lt.mp hnear).1]
  obtain ⟨n, rfl⟩ := Int.eq_ofNat_of_zero_le (by exact_mod_cast hmpos : 0 ≤ m)
  rw [Int.cast_natCast] at hm hnear
  rw [rounded_of_nonneg tie places hx, nearest_eq_of_abs_sub_lt hsize hnear, ← hm, mul_div_cancel_right₀ _ hten.ne']

/-- Rounding moves a number by half a unit of the last place at most. -/
theorem abs_rounded_sub_le (tie : Tie) (places : ℕ) (x : ℚ) : |tie.rounded places x - x| * 10 ^ places ≤ 1 / 2 := by
  have hten : (0 : ℚ) < 10 ^ places := by positivity
  wlog hx : 0 ≤ x generalizing x
  · have hneg := this (-x) (by linarith)
    rwa [rounded_neg, neg_sub_neg, abs_sub_comm] at hneg
  have hnear := tie.abs_nearest_sub_le (by positivity : 0 ≤ x * 10 ^ places)
  rwa [rounded_of_nonneg tie places hx, ← abs_of_pos hten, ← abs_mul, sub_mul, abs_of_pos hten,
    div_mul_cancel₀ _ hten.ne']

theorem exists_rounded_mul_pow (tie : Tie) (places : ℕ) (x : ℚ) : ∃ m : ℤ, tie.rounded places x * 10 ^ places = m := by
  have hten : (10 : ℚ) ^ places ≠ 0 := by positivity
  rw [rounded, mul_assoc, div_mul_cancel₀ _ hten]
  split
  · exact ⟨-tie.nearest (|x| * 10 ^ places), by push_cast; ring⟩
  · exact ⟨tie.nearest (|x| * 10 ^ places), by push_cast; ring⟩

/-- What a number is rounded to is also what it is rounded to in fewer places if it has no more decimals than these. -/
theorem exists_rounded_iff {tie : Tie} {few many : ℕ} {x q : ℚ} (h : q = tie.rounded many x) :
    (∃ places ≤ few, q = tie.rounded places x) ↔ ∃ m : ℤ, q * 10 ^ few = m := by
  constructor
  · rintro ⟨places, hplaces, rfl⟩
    exact exists_mul_pow_of_le hplaces (tie.exists_rounded_mul_pow places x)
  · rintro ⟨m, hm⟩
    obtain hle | hlt := le_or_gt many few
    · exact ⟨many, hle, h⟩
    · refine ⟨few, le_rfl, (rounded_eq_of_abs_sub_lt hm ?_).symm⟩
      have hnear := tie.abs_rounded_sub_le many x
      rw [← h] at hnear
      obtain ⟨more, rfl⟩ := Nat.exists_eq_add_of_lt hlt
      -- one more place is a tenth of the distance
      have hscale : (1 : ℚ) ≤ 10 ^ more := one_le_pow₀ (by norm_num)
      have hsize : 0 ≤ |q - x| * 10 ^ few := by positivity
      have hmore : |q - x| * 10 ^ (few + more + 1) = |q - x| * 10 ^ few * 10 ^ more * 10 := by
        ring
      rw [hmore] at hnear
      have hgrow := le_mul_of_one_le_right hsize hscale
      linarith

end Tie

end Numeric
end Stencil
