import Stencil.Numeric.Decimal
import Stencil.Proofs.Numeric.Digits
import Stencil.Proofs.Numeric.Rounding
import Mathlib.Algebra.Order.Field.Power
import Mathlib.Tactic.NormNum

/-!
# Decimal numbers as rational numbers

Setting the exponent of a decimal number rounds the rational number that it stands for (`rescaled_eq`). So a result that the
context gives is the exact one if the context can hold its significant digits (`fitted_exact`), but for numbers below the
least exponent with all digits, which are rounded at the last place there is (`settled_eq_ok`). From this it is read off
what a hundred times a number is (`percent_eq_ok`), and what a number is in decimal places (`quantized_eq_ok`).
-/

namespace Stencil
namespace Numeric
namespace Decimal

/-- The most decimal places that a number can have. -/
def mostPlaces : ℕ := 1000026

theorem leastExponent_eq : leastExponent = -(mostPlaces : ℤ) := by
  rfl

/-- The rational number that a finite decimal number stands for. -/
def worth (negative : Bool) (coefficient : ℕ) (exponent : ℤ) : ℚ :=
  (if negative then -1 else 1) * (coefficient * 10 ^ exponent)

theorem abs_worth (negative : Bool) (coefficient : ℕ) (exponent : ℤ) :
    |worth negative coefficient exponent| = coefficient * 10 ^ exponent := by
  have hsize : (0 : ℚ) ≤ coefficient * 10 ^ exponent := by positivity
  cases negative with
  | false => simp [worth, abs_of_nonneg hsize]
  | true => simp [worth, abs_of_nonneg hsize]

/-! ## Setting the exponent -/

/-- A natural number times a power of ten is a natural number, or the quotient of two. -/
theorem natCast_mul_zpow_of_nonneg {e : ℤ} (he : 0 ≤ e) (c : ℕ) :
    ((c * 10 ^ e.toNat : ℕ) : ℚ) = c * 10 ^ e := by
  obtain ⟨k, rfl⟩ := Int.eq_ofNat_of_zero_le he
  simp

theorem natCast_mul_zpow_of_neg {e : ℤ} (he : e < 0) (c : ℕ) :
    (c : ℚ) * 10 ^ e = c / ((10 ^ (-e).toNat : ℕ) : ℚ) := by
  obtain ⟨k, hk⟩ := Int.eq_ofNat_of_zero_le (by omega : 0 ≤ -e)
  obtain rfl : e = -(k : ℤ) := by omega
  simp [div_eq_mul_inv]

/-- Setting the exponent of a number rounds it at that place. -/
theorem rescaled_eq (tie : Tie) (c : ℕ) (exponent target : ℤ) :
    rescaled tie c exponent target = tie.nearest (c * 10 ^ (exponent - target)) := by
  rw [rescaled]
  split
  · next hle =>
      rw [← natCast_mul_zpow_of_nonneg (by omega), Tie.nearest_natCast]
  · next hlt =>
      rw [natCast_mul_zpow_of_neg (by omega), neg_sub]
      have hten : 0 < 10 ^ (target - exponent).toNat := Nat.pow_pos (by decide)
      dsimp only
      split
      · next hfew =>
          -- a number with fewer digits than are dropped is less than a tenth of a unit
          refine (Tie.nearest_eq_zero ?_).symm
          have hsmall : 10 * c < 10 ^ (target - exponent).toNat := by
            have hcount : 10 ^ (digitCount c + 1) ≤ 10 ^ (target - exponent).toNat :=
              Nat.pow_le_pow_right (by decide) hfew
            have hc := lt_pow_digitCount c
            rw [Nat.pow_succ] at hcount
            omega
          rw [div_lt_div_iff₀ (by exact_mod_cast hten) two_pos]
          have hsmall' : 2 * c < 10 ^ (target - exponent).toNat := by omega
          rw [one_mul, mul_comm]
          exact_mod_cast hsmall'
      · exact (Tie.nearest_div tie c hten).symm

/-! ## Results in the context -/

theorem fitted_of_le {c : ℕ} (h : digitCount c ≤ precision) (exponent : ℤ) :
    fitted c exponent = (c, exponent) := by
  rw [fitted, if_pos h]

/-- A number with more digits than the context has is rounded where the context ends; if that adds a digit, the last one is
left out. -/
theorem fitted_of_excess {c dropped : ℕ} (h : digitCount c = precision + dropped) (hdropped : 0 < dropped)
    (exponent : ℤ) :
    fitted c exponent =
      if digitCount (rescaled .toEven c exponent (exponent + dropped)) ≤ precision then
        (rescaled .toEven c exponent (exponent + dropped), exponent + dropped)
      else (rescaled .toEven c exponent (exponent + dropped) / 10, exponent + dropped + 1) := by
  rw [fitted, if_neg (by omega), h, Nat.add_sub_cancel_left]

/-- What is kept of a number with more digits than the context has are as many digits, or the power of ten after these. -/
theorem rescaled_excess_bounds {c dropped : ℕ} (h : digitCount c = precision + dropped) (hdropped : 0 < dropped)
    (exponent : ℤ) :
    10 ^ 27 ≤ rescaled .toEven c exponent (exponent + dropped) ∧
      rescaled .toEven c exponent (exponent + dropped) ≤ 10 ^ 28 := by
  have hten : 0 < 10 ^ dropped := Nat.pow_pos (by decide)
  have hc : 0 < c := by
    rw [Nat.pos_iff_ne_zero]
    rintro rfl
    have hone : digitCount 0 = 1 := rfl
    rw [hone, precision] at h
    omega
  have hrounded : rescaled .toEven c exponent (exponent + dropped) = roundedQuotient .toEven c (10 ^ dropped) := by
    rw [rescaled, if_neg (by omega), add_sub_cancel_left, Int.toNat_natCast, if_neg (by omega)]
  rw [hrounded]
  constructor
  · refine le_trans ?_ (le_roundedQuotient _ _ _)
    rw [Nat.le_div_iff_mul_le hten, ← Nat.pow_add]
    refine pow_le_of_lt_digitCount hc ?_
    rw [h, precision]
    omega
  · refine le_trans (roundedQuotient_le _ _ _) ?_
    rw [Nat.succ_le_iff, Nat.div_lt_iff_lt_mul hten, ← Nat.pow_add]
    have hsize := lt_pow_digitCount c
    rwa [h] at hsize

/-- Rounding can add a digit only to a row of nines. -/
theorem eq_of_excess {rounded : ℕ} (h : ¬ digitCount rounded ≤ precision) (hupper : rounded ≤ 10 ^ 28) :
    rounded = 10 ^ 28 := by
  rw [digitCount_le_iff (by decide), precision] at h
  omega

/-- A number with more digits than the context has gets as many as it has, and a greater exponent. -/
theorem fitted_of_gt {c : ℕ} (h : precision < digitCount c) (exponent : ℤ) :
    digitCount (fitted c exponent).1 = precision ∧ exponent < (fitted c exponent).2 := by
  obtain ⟨dropped, hdropped⟩ := Nat.exists_eq_add_of_lt h
  obtain ⟨hlower, hupper⟩ := rescaled_excess_bounds hdropped dropped.succ_pos exponent
  rw [fitted_of_excess hdropped dropped.succ_pos]
  split
  · next hfits =>
      exact ⟨digitCount_eq hlower ((digitCount_le_iff (by decide)).mp hfits), by omega⟩
  · next hmany =>
      have hcount : digitCount (10 ^ 27) = precision := digitCount_eq le_rfl (by decide)
      rw [eq_of_excess hmany hupper]
      exact ⟨hcount, by omega⟩

theorem fitted_pos {c : ℕ} (hc : 0 < c) (exponent : ℤ) : 0 < (fitted c exponent).1 := by
  by_cases hfits : digitCount c ≤ precision
  · rwa [fitted_of_le hfits]
  · obtain ⟨hcount, -⟩ := fitted_of_gt (not_le.mp hfits) exponent
    rw [Nat.pos_iff_ne_zero]
    intro hzero
    rw [hzero] at hcount
    exact absurd hcount (by decide)

/-- A number with more digits than the context has is worth what is kept of it. -/
theorem fitted_worth_of_excess {c dropped : ℕ} (h : digitCount c = precision + dropped) (hdropped : 0 < dropped)
    (exponent : ℤ) :
    ((fitted c exponent).1 : ℚ) * 10 ^ (fitted c exponent).2 =
      rescaled .toEven c exponent (exponent + dropped) * 10 ^ (exponent + dropped : ℤ) := by
  rw [fitted_of_excess h hdropped]
  split
  · rfl
  · next hmany =>
      have hten : (10 : ℚ) ≠ 0 := by norm_num
      rw [eq_of_excess hmany (rescaled_excess_bounds h hdropped exponent).2]
      dsimp only
      rw [zpow_add_one₀ hten]
      norm_num
      ring

/-- Fitting a number whose significant digits the context can hold changes nothing of its worth. -/
theorem fitted_exact {m : ℕ} (hm : 0 < m) (h : m < 10 ^ precision) (k : ℕ) (exponent : ℤ) :
    ((fitted (m * 10 ^ k) exponent).1 : ℚ) * 10 ^ (fitted (m * 10 ^ k) exponent).2 =
      (m * 10 ^ k : ℕ) * 10 ^ exponent := by
  have hcount : digitCount (m * 10 ^ k) = digitCount m + k := digitCount_mul_pow hm k
  have hfew : digitCount m ≤ precision := (digitCount_le_iff (by decide)).mpr h
  by_cases hfits : digitCount (m * 10 ^ k) ≤ precision
  · rw [fitted_of_le hfits]
  · obtain ⟨dropped, hdropped⟩ := Nat.exists_eq_add_of_le (not_le.mp hfits).le
    obtain ⟨left, rfl⟩ := Nat.exists_eq_add_of_le (by omega : dropped ≤ k)
    have hten : (10 : ℚ) ^ dropped ≠ 0 := by positivity
    have hrounded : rescaled .toEven (m * 10 ^ (dropped + left)) exponent (exponent + dropped) =
        m * 10 ^ left := by
      have hexact : ((m * 10 ^ (dropped + left) : ℕ) : ℚ) * 10 ^ (exponent - (exponent + dropped)) =
          ((m * 10 ^ left : ℕ) : ℚ) := by
        rw [sub_add_cancel_left, zpow_neg, zpow_natCast]
        push_cast
        rw [pow_add]
        field_simp
      rw [rescaled_eq, hexact, Tie.nearest_natCast]
    have hleft : digitCount (m * 10 ^ left) ≤ precision := by
      rw [digitCount_mul_pow hm]
      omega
    rw [fitted_of_excess hdropped (by omega), hrounded, if_pos hleft]
    rw [zpow_add₀ (by norm_num), zpow_natCast]
    push_cast
    rw [pow_add]
    ring

/-- A number whose leading digit stands below the least place is one below that place. -/
theorem leading_lt_iff {c : ℕ} (hc : 0 < c) (exponent bound : ℤ) :
    leading c exponent < bound ↔ (c : ℚ) * 10 ^ exponent < 10 ^ bound := by
  obtain ⟨k, hk⟩ := Nat.exists_eq_succ_of_ne_zero (digitCount_pos c).ne'
  have hten : (1 : ℚ) ≤ 10 := by norm_num
  have hpos : (0 : ℚ) < 10 ^ exponent := zpow_pos (by norm_num) _
  have hlower : (10 : ℚ) ^ k ≤ c := by
    exact_mod_cast pow_le_of_lt_digitCount hc (hk ▸ k.lt_succ_self)
  have hupper : (c : ℚ) < 10 ^ (k + 1) := by
    exact_mod_cast hk ▸ lt_pow_digitCount c
  rw [leading, hk]
  constructor
  · intro h
    calc
      (c : ℚ) * 10 ^ exponent < 10 ^ (k + 1) * 10 ^ exponent := by gcongr
      _ = 10 ^ (((k + 1 : ℕ) : ℤ) + exponent) := by rw [zpow_add₀ (by norm_num), zpow_natCast]
      _ ≤ 10 ^ bound := zpow_le_zpow_right₀ hten (by omega)
  · intro h
    by_contra hle
    refine absurd h (not_lt.mpr ?_)
    calc
      (10 : ℚ) ^ bound ≤ 10 ^ ((k : ℤ) + exponent) := zpow_le_zpow_right₀ hten (by omega)
      _ = 10 ^ k * 10 ^ exponent := by rw [zpow_add₀ (by norm_num), zpow_natCast]
      _ ≤ c * 10 ^ exponent := by gcongr

/-- A number that is too small for all its digits keeps those that are not below the least exponent. -/
theorem nearest_at_least_exponent (c : ℕ) (exponent : ℤ) :
    (Tie.toEven.nearest (c * 10 ^ (exponent - max exponent leastExponent)) : ℚ) *
        10 ^ max exponent leastExponent =
      Tie.toEven.nearest (c * 10 ^ exponent * 10 ^ mostPlaces) / 10 ^ mostPlaces := by
  have hten : (10 : ℚ) ≠ 0 := by norm_num
  have hmost : (10 : ℚ) ^ mostPlaces ≠ 0 := pow_ne_zero _ hten
  have hmul : (c : ℚ) * 10 ^ exponent * 10 ^ mostPlaces = c * 10 ^ (exponent + mostPlaces) := by
    rw [zpow_add₀ hten, zpow_natCast, mul_assoc]
  rw [hmul, leastExponent_eq]
  rcases le_total exponent (-(mostPlaces : ℤ)) with hbelow | habove
  · rw [max_eq_right hbelow, sub_neg_eq_add, zpow_neg, zpow_natCast, div_eq_mul_inv]
  · have hwhole := natCast_mul_zpow_of_nonneg (by omega : 0 ≤ exponent + mostPlaces) c
    rw [max_eq_left habove, sub_self, zpow_zero, mul_one, Tie.nearest_natCast, ← hwhole, Tie.nearest_natCast,
      hwhole, eq_div_iff hmost, hmul]

/-- What the context makes of an exact result that it can hold: zero stays zero, a number that is too small for all its
digits is rounded at the last place there is, and every other one is fitted. -/
theorem settled_eq_ok {negative : Bool} {c : ℕ} {exponent : ℤ} {d : Decimal}
    (h : settled negative c exponent = .ok d) :
    ∃ n target, d = finite negative n target ∧
      ((c : ℚ) * 10 ^ exponent < 10 ^ minExponent ∧
          (n : ℚ) * 10 ^ target =
            Tie.toEven.nearest (c * 10 ^ exponent * 10 ^ mostPlaces) / 10 ^ mostPlaces ∨
        (10 : ℚ) ^ minExponent ≤ c * 10 ^ exponent ∧ (n, target) = fitted c exponent) := by
  rw [settled] at h
  split at h
  · next hzero =>
      cases h
      subst hzero
      refine ⟨0, _, rfl, .inl ⟨?_, ?_⟩⟩
      · rw [Nat.cast_zero, zero_mul]
        exact zpow_pos (by norm_num) _
      · rw [Nat.cast_zero, zero_mul, zero_mul, zero_mul, Tie.nearest_zero, Nat.cast_zero, zero_div]
  · next hc =>
      split at h
      · next hsmall =>
          cases h
          refine ⟨_, _, rfl, .inl ⟨(leading_lt_iff (Nat.pos_of_ne_zero hc) _ _).mp hsmall, ?_⟩⟩
          rw [rescaled_eq]
          exact nearest_at_least_exponent c exponent
      · next hlarge =>
          rw [leading_lt_iff (Nat.pos_of_ne_zero hc), not_lt] at hlarge
          dsimp only at h
          split at h
          · cases h
          · cases h
            exact ⟨_, _, rfl, .inr ⟨hlarge, rfl⟩⟩

/-! ## Hundredths -/

/-- A hundred times a number, as the context gives it: a size below its least exponent with all digits is rounded to the
most places there are, from half way to the even neighbour. -/
def hundredfold (x : ℚ) : ℚ :=
  if |100 * x| < 10 ^ minExponent then Tie.toEven.rounded mostPlaces (100 * x) else 100 * x

theorem hundred_mul_worth (negative : Bool) (c : ℕ) (exponent : ℤ) :
    100 * worth negative c exponent = worth negative (100 * c) exponent := by
  rw [worth, worth]
  push_cast
  ring

/-- A decimal number is rounded by its size, and keeps its sign. -/
theorem rounded_worth (tie : Tie) (places : ℕ) (negative : Bool) (c : ℕ) (exponent : ℤ) :
    tie.rounded places (worth negative c exponent) =
      (if negative then -1 else 1) * (tie.nearest (c * 10 ^ exponent * 10 ^ places) / 10 ^ places) := by
  rw [Tie.rounded, abs_worth]
  have hsize : (0 : ℚ) ≤ c * 10 ^ exponent := by positivity
  cases negative with
  | false =>
      have hworth : ¬ worth false c exponent < 0 := by simpa [worth] using hsize
      rw [if_neg hworth]
      rfl
  | true =>
      obtain hzero | hpos := hsize.eq_or_lt
      · rw [← hzero, zero_mul, Tie.nearest_zero, Nat.cast_zero, zero_div, mul_zero, mul_zero]
      · have hworth : worth true c exponent < 0 := by simpa [worth] using hpos
        rw [if_pos hworth]
        rfl

/-- A hundred times a number is exact up to the least exponent, if the context can hold its significant digits; and a whole
number for which it is not has more digits before the point than the context. -/
theorem percent_eq_ok {negative : Bool} {c : ℕ} {exponent : ℤ} {d : Decimal}
    (hc : (∃ m k, m < 10 ^ precision ∧ c = m * 10 ^ k) ∨ 0 ≤ exponent)
    (h : percent (finite negative c exponent) = .ok d) :
    ∃ n target, d = finite negative n target ∧
      (worth negative n target = hundredfold (worth negative c exponent) ∨
        n ≠ 0 ∧ (precision : ℤ) < digitCount n + target) := by
  obtain ⟨n, target, rfl, ⟨hsmall, hworth⟩ | ⟨hlarge, hfitted⟩⟩ := settled_eq_ok h
  · refine ⟨n, target, rfl, .inl ?_⟩
    rw [hundredfold, hundred_mul_worth, abs_worth, if_pos hsmall, rounded_worth, ← hworth, worth]
  · refine ⟨n, target, rfl, ?_⟩
    have hexact : (n : ℚ) * 10 ^ target = (100 * c : ℕ) * 10 ^ exponent →
        worth negative n target = hundredfold (worth negative c exponent) := by
      intro hn
      rw [hundredfold, hundred_mul_worth, abs_worth, if_neg (not_lt.mpr hlarge), worth, worth, hn]
    have hpos : 0 < 100 * c := by
      rw [Nat.pos_iff_ne_zero]
      intro hzero
      rw [hzero, Nat.cast_zero, zero_mul] at hlarge
      exact absurd hlarge (not_le.mpr (zpow_pos (by norm_num) _))
    rcases hc with ⟨m, k, hm, rfl⟩ | hwhole
    · have hscaled : 100 * (m * 10 ^ k) = m * 10 ^ (k + 2) := by
        rw [Nat.pow_add]
        ring
      have hmpos : 0 < m := by
        rw [hscaled] at hpos
        exact Nat.pos_of_mul_pos_right hpos
      have hfit := fitted_exact hmpos hm (k + 2) exponent
      rw [← hscaled, ← hfitted] at hfit
      exact .inl (hexact hfit)
    · by_cases hfits : digitCount (100 * c) ≤ precision
      · rw [fitted_of_le hfits] at hfitted
        cases hfitted
        exact .inl (hexact rfl)
      · obtain ⟨hcount, htarget⟩ := fitted_of_gt (not_le.mp hfits) exponent
        have hn := fitted_pos hpos exponent
        rw [← hfitted] at hcount htarget hn
        dsimp only at hcount htarget hn
        exact .inr ⟨hn.ne', by omega⟩

/-! ## Rounding to decimal places -/

theorem unitExponent_eq_ok {places : ℕ} {target : ℤ} (h : unitExponent places = .ok target) :
    target = -(min places mostPlaces : ℕ) := by
  rw [unitExponent] at h
  split at h
  · cases h
  · cases h
    rw [leastExponent_eq]
    omega

/-- Where a number can be rounded to decimal places, it is rounded once, away from zero from half way, to as many of them
as there can be; and the result is in the context. -/
theorem quantized_eq_ok {places : ℕ} {negative : Bool} {c : ℕ} {exponent : ℤ} {d : Decimal}
    (h : quantized places (finite negative c exponent) = .ok d) :
    d = finite negative
        (Tie.awayFromZero.nearest (c * 10 ^ exponent * 10 ^ min places mostPlaces))
        (-(min places mostPlaces : ℕ)) ∧
      (c ≠ 0 → (digitCount c : ℤ) + exponent ≤ precision) := by
  rw [quantized] at h
  cases hunit : unitExponent places with
  | error fault =>
      rw [hunit] at h
      cases h
  | ok target =>
      obtain rfl := unitExponent_eq_ok hunit
      rw [hunit] at h
      dsimp only [bind, Except.bind] at h
      split at h
      · next hzero =>
          cases h
          subst hzero
          rw [Nat.cast_zero, zero_mul, zero_mul, Tie.nearest_zero]
          exact ⟨rfl, fun hne => absurd rfl hne⟩
      · split at h
        · cases h
        · next hfits =>
            split at h
            · cases h
            · cases h
              have hmul : (c : ℚ) * 10 ^ (exponent - -((min places mostPlaces : ℕ) : ℤ)) =
                  c * 10 ^ exponent * 10 ^ min places mostPlaces := by
                rw [sub_neg_eq_add, zpow_add₀ (by norm_num), zpow_natCast, mul_assoc]
              rw [rescaled_eq, hmul]
              exact ⟨rfl, fun _ => by omega⟩

end Decimal
end Numeric
end Stencil
