import Stencil.Numeric.IntegerText
import Stencil.Proofs.Numeric.Rounding

/-!
# Whole numbers as binary numbers

The binary number nearest to a whole number is a whole number again (`nearestBinary`), which is the given one if all of its
bits but the last zeros fit into a significand (`nearestBinary_eq_iff`). There is no nearest binary number beyond the largest
one, but for those that are rounded down to it (`le_nearestBinary_iff`, `Binary64.ofInt?_cases`).
-/

namespace Stencil
namespace Numeric

/-- The whole number that is left of a whole number in 53 significant bits. -/
def nearestBinary (n : ℕ) : ℕ :=
  roundedQuotient .toEven n (2 ^ (n.log2 - 52)) * 2 ^ (n.log2 - 52)

/-- All binary numbers are less than this number. -/
def binaryLimit : ℕ :=
  2 ^ (1024 : ℕ)

theorem binaryLimit_eq (k m : ℕ) (h : k + m = 1024) : binaryLimit = 2 ^ (k + m) := by
  rw [h, binaryLimit]

theorem binaryLimit_pos : 0 < binaryLimit := by
  unfold binaryLimit
  positivity

/-- A whole number is a binary number if it has at most 53 significant bits and is less than the limit. -/
def IsBinary (n : ℕ) : Prop :=
  n < binaryLimit ∧ ∃ significand exponent : ℕ, significand < 2 ^ (53 : ℕ) ∧ n = significand * 2 ^ exponent

theorem binaryMagnitude_one {n : ℕ} (hn : 0 < n) : binaryMagnitude n 1 = n.log2 := by
  have hlower : 2 ^ n.log2 ≤ n := Nat.log2_self_le hn.ne'
  have hone : Nat.log2 1 = 0 := by
    decide
  rw [binaryMagnitude, hone, Nat.cast_zero, sub_zero, Int.toNat_natCast, Int.toNat_of_nonpos (by omega), Nat.pow_zero, Nat.mul_one,
    Nat.one_mul, if_neg (not_lt.mpr hlower)]

section Significand

variable {n : ℕ}

theorem nearestBinary_of_small (h : n.log2 ≤ 52) : nearestBinary n = n := by
  rw [nearestBinary, Nat.sub_eq_zero_of_le h, Nat.pow_zero, roundedQuotient_one, Nat.mul_one]

/-- The significand of a number with all its bits, which can be carried to the next power of two. -/
theorem significand_bounds (hn : n ≠ 0) (h : 52 ≤ n.log2) :
    2 ^ (52 : ℕ) ≤ roundedQuotient .toEven n (2 ^ (n.log2 - 52)) ∧
      roundedQuotient .toEven n (2 ^ (n.log2 - 52)) ≤ 2 ^ (53 : ℕ) := by
  have hunit : 0 < 2 ^ (n.log2 - 52) := Nat.two_pow_pos _
  have hlower : 2 ^ (52 : ℕ) * 2 ^ (n.log2 - 52) ≤ n := by
    rw [← Nat.pow_add, Nat.add_sub_cancel' h]
    exact Nat.log2_self_le hn
  have hupper : n < 2 ^ (53 : ℕ) * 2 ^ (n.log2 - 52) := by
    rw [← Nat.pow_add, show 53 + (n.log2 - 52) = n.log2 + 1 by omega]
    exact Nat.lt_log2_self
  constructor
  · exact ((Nat.le_div_iff_mul_le hunit).mpr hlower).trans (le_roundedQuotient _ _ _)
  · exact (roundedQuotient_le _ _ _).trans ((Nat.div_lt_iff_lt_mul hunit).mpr hupper)

/-- The numbers that are their own nearest binary numbers. -/
theorem nearestBinary_eq_iff :
    nearestBinary n = n ↔ ∃ significand exponent : ℕ, significand < 2 ^ (53 : ℕ) ∧ n = significand * 2 ^ exponent := by
  constructor
  · intro h
    rcases Nat.lt_or_ge n.log2 52 with hsmall | hlarge
    · refine ⟨n, 0, ?_, by rw [Nat.pow_zero, Nat.mul_one]⟩
      exact Nat.lt_log2_self.trans_le (Nat.pow_le_pow_right (by decide) (by omega))
    · have hn : n ≠ 0 := by
        rintro rfl
        exact absurd hlarge (by decide)
      obtain hlt | hcarried := (significand_bounds hn hlarge).2.lt_or_eq
      · exact ⟨_, _, hlt, h.symm⟩
      · refine ⟨2 ^ (52 : ℕ), n.log2 - 52 + 1, by decide, ?_⟩
        rw [nearestBinary, hcarried] at h
        rw [← Nat.pow_add, show 52 + (n.log2 - 52 + 1) = 53 + (n.log2 - 52) by omega, Nat.pow_add]
        exact h.symm
  · rintro ⟨significand, exponent, hsignificand, hn⟩
    rcases Nat.eq_zero_or_pos significand with rfl | hpos
    · rw [Nat.zero_mul] at hn
      subst hn
      rfl
    · -- the exponent is at least that of the unit
      have hlog : n.log2 < 53 + exponent := by
        rw [Nat.log2_lt (by rw [hn]; positivity), hn, Nat.pow_add]
        exact Nat.mul_lt_mul_of_pos_right hsignificand (Nat.two_pow_pos _)
      have hunit : n = significand * 2 ^ (exponent - (n.log2 - 52)) * 2 ^ (n.log2 - 52) := by
        rw [Nat.mul_assoc, ← Nat.pow_add, Nat.sub_add_cancel (by omega)]
        exact hn
      have hrounded : roundedQuotient .toEven n (2 ^ (n.log2 - 52)) =
          significand * 2 ^ (exponent - (n.log2 - 52)) := by
        conv_lhs => arg 2; rw [hunit]
        exact roundedQuotient_mul _ _ (Nat.two_pow_pos _)
      rw [nearestBinary, hrounded]
      exact hunit.symm

/-- A quotient rounds up behind an odd whole number if it is at least half way to the next one. -/
theorem lt_roundedQuotient_iff {whole half : ℕ} (hwhole : whole % 2 = 1) (hhalf : 0 < half) :
    whole < roundedQuotient .toEven n (2 * half) ↔ (2 * whole + 1) * half ≤ n := by
  have hsplit : 2 * half * (n / (2 * half)) + n % (2 * half) = n := Nat.div_add_mod n (2 * half)
  have hpart : n % (2 * half) < 2 * half := Nat.mod_lt _ (by omega)
  have hmiddle : (2 * whole + 1) * half = 2 * half * whole + half := by ring
  have hleast := le_roundedQuotient .toEven n (2 * half)
  have hmost := roundedQuotient_le .toEven n (2 * half)
  rw [hmiddle]
  obtain hbelow | hequal | habove := Nat.lt_trichotomy (n / (2 * half)) whole
  · have hlt : 2 * half * (n / (2 * half) + 1) ≤ 2 * half * whole := Nat.mul_le_mul_left _ hbelow
    rw [Nat.mul_add, Nat.mul_one] at hlt
    omega
  · rw [hequal] at hsplit
    rw [roundedQuotient, hequal, Tie.roundsUp]
    obtain hless | hmore := Nat.lt_or_ge (n % (2 * half)) half
    · rw [Nat.compare_eq_lt.mpr (by omega)]
      simp only [Bool.toNat_false]
      omega
    · obtain htie | hup := hmore.eq_or_lt
      · rw [Nat.compare_eq_eq.mpr (by omega)]
        simp only [hwhole, decide_true, Bool.or_true, Bool.toNat_true]
        omega
      · rw [Nat.compare_eq_gt.mpr (by omega)]
        simp only [Bool.toNat_true]
        omega
  · have hle : 2 * half * (whole + 1) ≤ 2 * half * (n / (2 * half)) := Nat.mul_le_mul_left _ habove
    rw [Nat.mul_add, Nat.mul_one] at hle
    omega

/-- From the middle between the largest number with 53 significant bits below a power of two and this power on, numbers are
rounded up to the power. -/
theorem le_nearestBinary_iff (k : ℕ) : 2 ^ (54 + k) ≤ nearestBinary n ↔ 2 ^ (54 + k) - 2 ^ k ≤ n := by
  have hhalf : 0 < 2 ^ k := Nat.two_pow_pos _
  have hlimit : 2 ^ (54 + k) = 2 ^ (54 : ℕ) * 2 ^ k := Nat.pow_add 2 54 k
  rw [hlimit]
  obtain hfew | hall | hmany := Nat.lt_trichotomy n.log2 (53 + k)
  · have hn : n < 2 ^ (53 : ℕ) * 2 ^ k := by
      rw [← Nat.pow_add]
      exact Nat.lt_log2_self.trans_le (Nat.pow_le_pow_right (by decide) hfew)
    have hnearest : nearestBinary n ≤ 2 ^ (53 : ℕ) * 2 ^ k := by
      rcases le_or_gt n.log2 52 with hsmall | hlarge
      · rw [nearestBinary_of_small hsmall]
        exact hn.le
      · have hn0 : n ≠ 0 := by
          rintro rfl
          exact absurd hlarge (by decide)
        exact Nat.mul_le_mul (significand_bounds hn0 hlarge.le).2 (Nat.pow_le_pow_right (by decide) (by omega))
    exact iff_of_false (by omega) (by omega)
  · have hunit : 2 ^ (n.log2 - 52) = 2 * 2 ^ k := by
      rw [hall, show 53 + k - 52 = k + 1 by omega, Nat.pow_succ, Nat.mul_comm]
    rw [nearestBinary, hunit, show 2 ^ (54 : ℕ) * 2 ^ k - 2 ^ k = (2 * (2 ^ (53 : ℕ) - 1) + 1) * 2 ^ k by omega,
      ← lt_roundedQuotient_iff (by decide) hhalf, show 2 ^ (54 : ℕ) * 2 ^ k = 2 ^ (53 : ℕ) * (2 * 2 ^ k) by omega]
    exact Nat.mul_le_mul_right_iff (by omega)
  · have hn0 : n ≠ 0 := by
      rintro rfl
      rw [Nat.log2_zero] at hmany
      omega
    have hn : 2 ^ (54 : ℕ) * 2 ^ k ≤ n := by
      rw [← Nat.pow_add]
      exact (Nat.pow_le_pow_right (by decide) (by omega)).trans (Nat.log2_self_le hn0)
    have hnearest : 2 ^ (52 : ℕ) * 2 ^ (k + 2) ≤ nearestBinary n :=
      Nat.mul_le_mul (significand_bounds hn0 (by omega)).1 (Nat.pow_le_pow_right (by decide) (by omega))
    rw [Nat.pow_add] at hnearest
    exact iff_of_true (by omega) (by omega)

/-- A number with a significand of 53 bits has as many bits as its exponent says. -/
theorem significand_mul_lt_iff {significand : ℕ} (hlower : 2 ^ (52 : ℕ) ≤ significand)
    (hupper : significand < 2 ^ (53 : ℕ)) (k m : ℕ) : significand * 2 ^ k < 2 ^ (53 + m) ↔ k ≤ m := by
  constructor
  · intro h
    by_contra hlt
    refine absurd h (not_lt.mpr ?_)
    rw [show 53 + m = 52 + (m + 1) by omega, Nat.pow_add]
    exact Nat.mul_le_mul hlower (Nat.pow_le_pow_right (by decide) (by omega))
  · intro h
    rw [Nat.pow_add]
    exact Nat.mul_lt_mul_of_lt_of_le hupper (Nat.pow_le_pow_right (by decide) h) (Nat.two_pow_pos _)

end Significand

/-! ## The nearest binary number -/

namespace Binary64

/-- A binary number that is a whole number, with the sign that it is shown with. -/
def IsWhole (x : Binary64) (negative : Bool) (n : ℕ) : Prop :=
  ∃ significand exponent, x = finite negative significand exponent ∧
    (quotient significand exponent).1 = n * (quotient significand exponent).2

theorem isWhole_finite (negative : Bool) (significand exponent : ℕ) :
    (finite negative significand exponent).IsWhole negative (significand * 2 ^ exponent) := by
  refine ⟨significand, exponent, rfl, ?_⟩
  simp [quotient]

/-- A significand with all its bits makes a finite number if that is below the limit. -/
theorem ofSignificand_cases (negative : Bool) {significand : ℕ} (hlower : 2 ^ (52 : ℕ) ≤ significand)
    (hupper : significand ≤ 2 ^ (53 : ℕ)) (exponent : ℕ) :
    binaryLimit ≤ significand * 2 ^ exponent ∧ ofSignificand negative significand exponent = infinite negative ∨
      significand * 2 ^ exponent < binaryLimit ∧
        (ofSignificand negative significand exponent).IsWhole negative (significand * 2 ^ exponent) := by
  have hchoice {s k : ℕ} (hs : 2 ^ (52 : ℕ) ≤ s) (hs' : s < 2 ^ (53 : ℕ)) :
      binaryLimit ≤ s * 2 ^ k ∧
          (if maxExponent < (k : ℤ) then infinite negative else finite negative s k) = infinite negative ∨
        s * 2 ^ k < binaryLimit ∧
          (if maxExponent < (k : ℤ) then infinite negative else finite negative s k).IsWhole negative (s * 2 ^ k) := by
    have hbits := significand_mul_lt_iff hs hs' k 971
    rw [← binaryLimit_eq 53 971 rfl] at hbits
    split
    · next hlarge =>
        rw [maxExponent] at hlarge
        exact .inl ⟨not_lt.mp (mt hbits.mp (by omega)), rfl⟩
    · next hsmall =>
        rw [maxExponent] at hsmall
        exact .inr ⟨hbits.mpr (by omega), isWhole_finite negative s k⟩
  rw [ofSignificand]
  obtain hlt | rfl := hupper.lt_or_eq
  · rw [if_neg hlt.ne, if_neg hlt.ne]
    exact hchoice hlower hlt
  · -- the carried significand stands for the same number
    have hcarried : 2 ^ (53 : ℕ) * 2 ^ exponent = 2 ^ (52 : ℕ) * 2 ^ (exponent + 1) := by
      rw [← Nat.pow_add, ← Nat.pow_add, Nat.add_comm exponent, ← Nat.add_assoc]
    rw [if_pos rfl, if_pos rfl, hcarried, ← Nat.cast_succ]
    exact hchoice le_rfl (by decide)

/-- A whole number as a quotient is rounded to a whole number, or it is beyond all binary numbers. -/
theorem ofQuotient_one_cases (negative : Bool) (n : ℕ) :
    binaryLimit ≤ nearestBinary n ∧ ofQuotient negative n 1 = infinite negative ∨
      nearestBinary n < binaryLimit ∧ (ofQuotient negative n 1).IsWhole negative (nearestBinary n) := by
  rw [ofQuotient]
  split
  · next hzero =>
      subst hzero
      have hnone : nearestBinary 0 = 0 := nearestBinary_of_small (Nat.zero_le 52)
      rw [hnone]
      exact .inr ⟨binaryLimit_pos, 0, -1074, rfl, by rw [quotient, Nat.zero_mul, Nat.zero_mul]⟩
  · next hn =>
      rw [binaryMagnitude_one (Nat.pos_of_ne_zero hn), max_eq_left (by omega)]
      dsimp only
      rcases le_or_gt n.log2 52 with hsmall | hlarge
      · -- the bits are moved to the front of the significand
        have hexponent : (n.log2 : ℤ) - 52 = -((52 - n.log2 : ℕ) : ℤ) := by omega
        have hupper : n * 2 ^ (52 - n.log2) < 2 ^ (53 : ℕ) := by
          rw [show 53 = n.log2 + 1 + (52 - n.log2) by omega, Nat.pow_add]
          exact Nat.mul_lt_mul_of_pos_right Nat.lt_log2_self (Nat.two_pow_pos _)
        have hlimit : n < binaryLimit := by
          rw [binaryLimit, ← Nat.log2_lt hn]
          omega
        rw [hexponent, neg_neg, Int.toNat_natCast, Int.toNat_of_nonpos (by omega), Nat.pow_zero, Nat.mul_one,
          roundedQuotient_one, nearestBinary_of_small hsmall, ofSignificand, if_neg hupper.ne, if_neg hupper.ne,
          if_neg (by rw [maxExponent]; omega)]
        refine .inr ⟨hlimit, _, _, rfl, ?_⟩
        rw [quotient, neg_neg, Int.toNat_natCast, Int.toNat_of_nonpos (by omega), Nat.pow_zero, Nat.mul_one]
      · have hexponent : (n.log2 : ℤ) - 52 = ((n.log2 - 52 : ℕ) : ℤ) := by omega
        obtain ⟨hlower, hupper⟩ := significand_bounds hn hlarge.le
        rw [hexponent, Int.toNat_natCast, Int.toNat_of_nonpos (by omega), Nat.pow_zero, Nat.mul_one, Nat.one_mul]
        exact ofSignificand_cases negative hlower hupper (n.log2 - 52)

/-- The binary number nearest to a whole number is a whole number as well, or there is none. -/
theorem ofInt?_cases (n : ℤ) :
    binaryLimit ≤ nearestBinary n.natAbs ∧ ofInt? n = none ∨
      nearestBinary n.natAbs < binaryLimit ∧
        ∃ x, ofInt? n = some x ∧ x.IsWhole (n < 0) (nearestBinary n.natAbs) := by
  rw [ofInt?]
  obtain ⟨hlarge, hinfinite⟩ | ⟨hsmall, significand, exponent, hfinite, hwhole⟩ :=
    ofQuotient_one_cases (n < 0) n.natAbs
  · rw [hinfinite]
    exact .inl ⟨hlarge, rfl⟩
  · rw [hfinite]
    exact .inr ⟨hsmall, _, rfl, significand, exponent, rfl, hwhole⟩

end Binary64

end Numeric
end Stencil
