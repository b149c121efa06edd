import Stencil.Proofs.Numeric.Decimal
import Mathlib.Data.Int.Log

/-!
# The decimal context as a rounding of rational numbers

A size in the context has 28 digits from its leading one on, but none below the least exponent (`Decimal.lastPlace`), and is
rounded there once, from half way to the even neighbour (`Decimal.inContext`). This is what the context makes of every exact
result, unless it is then too large for the context (`settled_cases`). A size that has no digits below its last place is kept
(`inContext_eq_self`).
-/

namespace Stencil
namespace Numeric
namespace Decimal

/-- The exponent of the last digit that the context keeps of a size. -/
def lastPlace (size : ℚ) : ℤ :=
  max (Int.log 10 size - 27) leastExponent

/-- A size as the context gives it, if it is not too large. -/
def inContext (size : ℚ) : ℚ :=
  Tie.toEven.nearest (size / 10 ^ lastPlace size) * 10 ^ lastPlace size

theorem inContext_nonneg (size : ℚ) : 0 ≤ inContext size := by
  rw [inContext]
  positivity

theorem ten_ne_zero : (10 : ℚ) ≠ 0 := by
  norm_num

/-- The logarithm of a size is the exponent of its leading digit. -/
theorem log_worth {c : ℕ} (hc : 0 < c) (exponent : ℤ) : Int.log 10 ((c : ℚ) * 10 ^ exponent) = leading c exponent := by
  have hpos : (0 : ℚ) < c * 10 ^ exponent := by
    have hcast : (0 : ℚ) < c := by exact_mod_cast hc
    positivity
  refine eq_of_forall_gt_iff fun bound => ?_
  have hlog := Int.lt_zpow_iff_log_lt (b := 10) (by decide) (x := bound) hpos
  rw [leading_lt_iff hc, ← hlog, Nat.cast_ofNat]

/-! ## Sizes that are kept -/

/-- A size that is a whole multiple of its last place is kept. -/
theorem inContext_of_le_exponent {c : ℕ} {exponent : ℤ} (h : lastPlace (c * 10 ^ exponent) ≤ exponent) :
    inContext (c * 10 ^ exponent) = c * 10 ^ exponent := by
  rw [inContext]
  generalize lastPlace (c * 10 ^ exponent) = place at h ⊢
  have hunit : (10 : ℚ) ^ place ≠ 0 := zpow_ne_zero _ ten_ne_zero
  have hwhole : (c : ℚ) * 10 ^ exponent / 10 ^ place = ((c * 10 ^ (exponent - place).toNat : ℕ) : ℚ) := by
    rw [natCast_mul_zpow_of_nonneg (by omega), zpow_sub₀ ten_ne_zero, mul_div_assoc]
  rw [hwhole, Tie.nearest_natCast, ← hwhole, div_mul_cancel₀ _ hunit]

@[simp] theorem inContext_zero : inContext 0 = 0 := by
  rw [inContext, zero_div, Tie.nearest_zero, Nat.cast_zero, zero_mul]

/-- A size of at most 28 significant digits, none of them below the least exponent, is kept. -/
theorem inContext_eq_self {c : ℕ} (hc : c < 10 ^ 28) {exponent : ℤ} (hexponent : leastExponent ≤ exponent) :
    inContext (c * 10 ^ exponent) = c * 10 ^ exponent := by
  obtain rfl | hpos := Nat.eq_zero_or_pos c
  · rw [Nat.cast_zero, zero_mul, inContext_zero]
  · refine inContext_of_le_exponent ?_
    have hcount : digitCount c ≤ 28 := (digitCount_le_iff (by decide)).mpr hc
    rw [lastPlace, log_worth hpos, leading]
    exact max_le (by omega) hexponent

/-! ## Results in the context -/

/-- What is fitted into the context is rounded at its last place. -/
theorem fitted_worth {c : ℕ} {exponent : ℤ} (h : (10 : ℚ) ^ minExponent ≤ c * 10 ^ exponent) :
    ((fitted c exponent).1 : ℚ) * 10 ^ (fitted c exponent).2 = inContext (c * 10 ^ exponent) := by
  have hpos : 0 < c := by
    rw [Nat.pos_iff_ne_zero]
    rintro rfl
    rw [Nat.cast_zero, zero_mul] at h
    exact absurd h (not_le.mpr (zpow_pos (by norm_num) _))
  have hplace : lastPlace (c * 10 ^ exponent) = exponent + digitCount c - 28 := by
    have hleading := not_lt.mpr h
    rw [← leading_lt_iff hpos, leading, minExponent] at hleading
    rw [lastPlace, log_worth hpos, leading, leastExponent_eq, mostPlaces]
    omega
  by_cases hfits : digitCount c ≤ precision
  · rw [fitted_of_le hfits, inContext_of_le_exponent]
    rw [hplace]
    rw [precision] at hfits
    omega
  · obtain ⟨dropped, hdropped⟩ := Nat.exists_eq_add_of_le (not_le.mp hfits).le
    have htarget : lastPlace (c * 10 ^ exponent) = exponent + dropped := by
      rw [hplace, hdropped, precision]
      push_cast
      ring
    rw [fitted_worth_of_excess hdropped (by omega), rescaled_eq, inContext, htarget, zpow_sub₀ ten_ne_zero, mul_div_assoc]

/-- What is too small for all its digits is rounded at the last place of all. -/
theorem inContext_of_small {size : ℚ} (hpos : 0 ≤ size) (h : size < 10 ^ minExponent) :
    inContext size = Tie.toEven.nearest (size * 10 ^ mostPlaces) / 10 ^ mostPlaces := by
  obtain rfl | hpos := hpos.eq_or_lt
  · rw [inContext_zero, zero_mul, Tie.nearest_zero, Nat.cast_zero, zero_div]
  · have hlog := (Int.lt_zpow_iff_log_lt (b := 10) (by decide) (x := minExponent) hpos).mp (by rwa [Nat.cast_ofNat])
    have hplace : lastPlace size = -(mostPlaces : ℤ) := by
      rw [minExponent] at hlog
      rw [lastPlace, leastExponent_eq, mostPlaces]
      omega
    rw [inContext, hplace, zpow_neg, zpow_natCast, div_inv_eq_mul, div_eq_mul_inv]

theorem inContext_lt_of_small {size : ℚ} (hpos : 0 ≤ size) (h : size < 10 ^ minExponent) :
    inContext size < 10 ^ (maxExponent + 1) := by
  have hscale : (1 : ℚ) ≤ 10 ^ mostPlaces := one_le_pow₀ (by norm_num)
  have hnear := (abs_le.mp (Tie.toEven.abs_nearest_sub_le (by positivity : 0 ≤ size * 10 ^ mostPlaces))).2
  have hsmall : (10 : ℚ) ^ minExponent ≤ 1 := zpow_le_one_of_nonpos₀ (by norm_num) (by decide)
  rw [inContext_of_small hpos h]
  calc
    (Tie.toEven.nearest (size * 10 ^ mostPlaces) : ℚ) / 10 ^ mostPlaces ≤ size + 1 := by
      rw [div_le_iff₀ (by positivity), add_mul, one_mul]
      linarith
    _ < 10 ^ (1 : ℤ) := by
      rw [zpow_one]
      linarith
    _ ≤ 10 ^ (maxExponent + 1) := zpow_le_zpow_right₀ (by norm_num) (by decide)

/-- An exact result is refused if it is too large in the context; else it is what it is there. -/
theorem settled_cases (negative : Bool) (c : ℕ) (exponent : ℤ) :
    10 ^ (maxExponent + 1) ≤ inContext (c * 10 ^ exponent) ∧ settled negative c exponent = .error .decimalOverflow ∨
      inContext (c * 10 ^ exponent) < 10 ^ (maxExponent + 1) ∧
        ∃ n target, settled negative c exponent = .ok (finite negative n target) ∧
          (n : ℚ) * 10 ^ target = inContext (c * 10 ^ exponent) := by
  rw [settled]
  split
  · next hzero =>
      subst hzero
      rw [Nat.cast_zero, zero_mul, inContext_zero]
      exact .inr ⟨zpow_pos (by norm_num) _, 0, _, rfl, by rw [Nat.cast_zero, zero_mul]⟩
  · next hc =>
      have hpos := Nat.pos_of_ne_zero hc
      split
      · next hsmall =>
          rw [leading_lt_iff hpos] at hsmall
          have hworth : (rescaled .toEven c exponent (max exponent leastExponent) : ℚ) *
              10 ^ max exponent leastExponent = inContext (c * 10 ^ exponent) := by
            rw [inContext_of_small (by positivity) hsmall, rescaled_eq, nearest_at_least_exponent]
          exact .inr ⟨inContext_lt_of_small (by positivity) hsmall, _, _, rfl, hworth⟩
      · next hlarge =>
          rw [leading_lt_iff hpos, not_lt] at hlarge
          have hworth := fitted_worth hlarge
          have hn := fitted_pos hpos exponent
          generalize fitted c exponent = fit at hworth hn ⊢
          obtain ⟨n, target⟩ := fit
          dsimp only at hworth hn ⊢
          have hlimit : maxExponent < leading n target ↔ 10 ^ (maxExponent + 1) ≤ inContext (c * 10 ^ exponent) := by
            rw [← Int.add_one_le_iff, ← not_lt, leading_lt_iff hn, hworth, not_lt]
          split
          · next hover => exact .inl ⟨hlimit.mp hover, rfl⟩
          · next hfits => exact .inr ⟨not_le.mp (mt hlimit.mpr hfits), n, target, rfl, hworth⟩

end Decimal
end Numeric
end Stencil
