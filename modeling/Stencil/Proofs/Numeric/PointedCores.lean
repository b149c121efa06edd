import Stencil.Proofs.Numeric.Context
import Stencil.Proofs.Numeric.Picture

/-!
# Cores with several points

In a core, each point behind the first one counts as a place to which the number is rounded, though it is no place for a digit
(`Picture.places_ofCore_eq`). So a core with several points can show more decimals than it has places for them. It does so
unless the rounded number has no more decimals than these places (`Picture.decimals_within_places_iff`).
-/

namespace Stencil
namespace Numeric

/-- A finite number, and the rational number that it is taken for in pictures. A binary number is taken for what its
shortest digits write. -/
inductive Number.Denotes : Number → ℚ → Prop
  | integer (n : ℤ) : Denotes (.integer n) n
  | binary (negative : Bool) (significand : ℕ) (exponent : ℤ) (s : Significant)
      (h : shortest significand exponent = s) :
      Denotes (.binary (.finite negative significand exponent))
        (Decimal.worth negative (digitsValue s.digits) (s.place - s.digits.length))
  | decimal (negative : Bool) (c : ℕ) (exponent : ℤ) :
      Denotes (.decimal (.finite negative c exponent)) (Decimal.worth negative c exponent)

/-- A hundred times a number, as the context gives it. -/
def Decimal.hundredInContext (x : ℚ) : ℚ :=
  (if x < 0 then -1 else 1) * inContext |100 * x|

/-- A hundred times a number is rounded by the context. -/
theorem Decimal.percent_worth {negative : Bool} {c : ℕ} {exponent : ℤ} {d : Decimal}
    (h : percent (finite negative c exponent) = .ok d) :
    ∃ n target, d = finite negative n target ∧
      worth negative n target = hundredInContext (worth negative c exponent) := by
  rw [percent] at h
  obtain ⟨-, hrefused⟩ | ⟨-, n, target, hsettled, hworth⟩ := settled_cases negative (100 * c) exponent
  · rw [hrefused] at h
    cases h
  · rw [hsettled] at h
    cases h
    refine ⟨n, target, rfl, ?_⟩
    rw [hundredInContext, hundred_mul_worth, abs_worth, ← hworth, worth, worth]
    have hsize : (0 : ℚ) ≤ c * 10 ^ exponent := by positivity
    cases negative with
    | false => rw [if_neg Bool.false_ne_true, one_mul ((c : ℚ) * 10 ^ exponent), if_neg hsize.not_gt]
    | true =>
        obtain hzero | hpos := hsize.eq_or_lt
        · -- zero has no sign
          have hnone : (n : ℚ) * 10 ^ target = 0 := by
            rw [hworth, Nat.cast_mul, mul_assoc, ← hzero, mul_zero, inContext_zero]
          rw [hnone, mul_zero, mul_zero]
        · rw [if_pos rfl, neg_one_mul ((c : ℚ) * 10 ^ exponent), if_pos (neg_neg_of_pos hpos)]

namespace Picture

theorem finite_of_denotes {number : Number} {x : ℚ} (h : number.Denotes x) {d : Decimal}
    (hd : toDecimal number = .ok d) :
    ∃ negative c exponent, d = .finite negative c exponent ∧ Decimal.worth negative c exponent = x := by
  cases h with
  | integer n => exact ⟨_, _, _, toDecimal_integer_eq_ok hd, worth_ofInt n⟩
  | binary negative significand exponent s h =>
      subst h
      cases hd
      exact ⟨_, _, _, rfl, rfl⟩
  | decimal negative c exponent =>
      cases hd
      exact ⟨_, _, _, rfl, rfl⟩

/-- The number that is asked for between two texts: a hundred times the given one, if there is a per cent sign in one of
them. -/
def asked (before after : List Char) (x : ℚ) : ℚ :=
  if '%' ∈ before ++ after then 100 * x else x

/-- The number that is taken for this, where a hundred times a number is what the context makes of it. -/
def taken (before after : List Char) (x : ℚ) : ℚ :=
  if '%' ∈ before ++ after then Decimal.hundredInContext x else x

/-- The number that a picture shows is the one that is taken for it. -/
theorem rounded_eq_quantized {before core after : List Char} (hcore : IsCoreText core) {number : Number} {x : ℚ}
    (hnumber : number.Denotes x) {d : Decimal} (h : (ofCore before core after).rounded number = .ok d) :
    ∃ negative c exponent, Decimal.worth negative c exponent = taken before after x ∧
      Decimal.quantized (fractionPlaces core + (core.count '.' - 1)) (.finite negative c exponent) = .ok d := by
  obtain ⟨exact, hdecimal⟩ := exists_toDecimal_of_rounded h
  obtain ⟨negative, c, exponent, rfl, hworth⟩ := finite_of_denotes hnumber hdecimal
  by_cases hpercent : '%' ∈ before ++ after
  · rw [rounded_of_percent (isPercent_ofCore_iff.mpr hpercent) hdecimal, places_ofCore_eq hcore] at h
    cases hd : Decimal.percent (.finite negative c exponent) with
    | error fault =>
        rw [hd] at h
        cases h
    | ok hundred =>
        rw [hd] at h
        obtain ⟨n, target, rfl, htaken⟩ := Decimal.percent_worth hd
        refine ⟨negative, n, target, ?_, h⟩
        rw [htaken, hworth, taken, if_pos hpercent]
  · rw [rounded_of_no_percent (isPercent_ofCore_eq_false_iff.mpr hpercent) hdecimal, places_ofCore_eq hcore] at h
    refine ⟨negative, c, exponent, ?_, h⟩
    rw [hworth, taken, if_neg hpercent]

/-- What a picture shows of a finite number: the number is rounded once, from half way away from zero, to a place for each
place behind the first point of the core and each further point. -/
theorem exists_body_of_apply {before core after text : List Char} (hcore : IsCoreText core) {number : Number} {x : ℚ}
    (hnumber : number.Denotes x) (h : (ofCore before core after).apply number = .ok text) :
    let many := min (fractionPlaces core + (core.count '.' - 1)) Decimal.mostPlaces
    let q := Tie.awayFromZero.rounded many (taken before after x)
    ∃ n : ℕ, |q| = n / 10 ^ many ∧
      text = before ++ (if q < 0 then ['-'] else []) ++ (ofCore before core after).body many n ++ after := by
  have hdisplay := apply_eq_ok_iff.mp h
  cases hd : (ofCore before core after).rounded number with
  | error fault =>
      rw [hd] at hdisplay
      cases hdisplay
  | ok d =>
      rw [hd] at hdisplay
      obtain ⟨negative, c, exponent, hworth, hquantized⟩ := rounded_eq_quantized hcore hnumber hd
      rw [← hworth]
      exact display_quantized hquantized hdisplay

/-- A hundred times a number is kept if the context holds its digits. -/
theorem taken_eq_asked {before after : List Char} {x : ℚ} {m : ℕ} (hm : m < 10 ^ 28) {j : ℤ}
    (hj : Decimal.leastExponent ≤ j) (h : |asked before after x| = m * 10 ^ j) :
    taken before after x = asked before after x := by
  rw [taken]
  split
  · next hpercent =>
      rw [asked, if_pos hpercent] at h ⊢
      rw [Decimal.hundredInContext, h, Decimal.inContext_eq_self hm hj, ← h]
      obtain hneg | hnonneg := lt_or_ge x 0
      · rw [if_pos hneg, abs_of_neg (by linarith), neg_one_mul, neg_neg]
      · rw [if_neg hnonneg.not_gt, abs_of_nonneg (by linarith), one_mul]
  · next hpercent => rw [asked, if_neg hpercent]

/-! ## Decimals -/

/-- A number has no more decimals than some places if its size has no more. -/
theorem exists_abs_mul_pow_iff {q : ℚ} {few : ℕ} : (∃ m : ℕ, |q| * 10 ^ few = m) ↔ ∃ m : ℤ, q * 10 ^ few = m := by
  have hten : (0 : ℚ) < 10 ^ few := by positivity
  constructor
  · rintro ⟨m, hm⟩
    obtain hneg | hnonneg := lt_or_ge q 0
    · refine ⟨-m, ?_⟩
      rw [abs_of_neg hneg, neg_mul] at hm
      rw [Int.cast_neg, Int.cast_natCast, ← hm, neg_neg]
    · refine ⟨m, ?_⟩
      rwa [abs_of_nonneg hnonneg] at hm
  · rintro ⟨m, hm⟩
    refine ⟨m.natAbs, ?_⟩
    rw [Nat.cast_natAbs, Int.cast_abs, ← hm, abs_mul, abs_of_pos hten]

/-- The fraction of a number is shown in few places if the number has no more decimals. -/
theorem length_fraction_le_iff {q : ℚ} {n places few least : ℕ} (hq : |q| = n / 10 ^ places) (hleast : least ≤ few) :
    (fractionDigits least places (n % 10 ^ places)).length ≤ few ↔ ∃ m : ℤ, q * 10 ^ few = m := by
  have hten : 0 < 10 ^ places := Nat.pow_pos (by decide)
  have hsplit : (n : ℚ) / 10 ^ places = (n / 10 ^ places : ℕ) + ((n % 10 ^ places : ℕ) : ℚ) / 10 ^ places := by
    have hnum : ((10 ^ places * (n / 10 ^ places) + n % 10 ^ places : ℕ) : ℚ) = n := by
      rw [Nat.div_add_mod]
    rw [← hnum]
    push_cast
    field_simp
  rw [length_fractionDigits_le_iff (Nat.mod_lt _ hten) hleast, ← exists_abs_mul_pow_iff, hq, hsplit]
  generalize n / 10 ^ places = whole
  have hfraction : 0 ≤ ((n % 10 ^ places : ℕ) : ℚ) / 10 ^ places * 10 ^ few := by positivity
  generalize ((n % 10 ^ places : ℕ) : ℚ) / 10 ^ places = fraction at hfraction ⊢
  rw [add_mul]
  constructor
  · rintro ⟨m, hm⟩
    exact ⟨whole * 10 ^ few + m, by rw [hm]; push_cast; rfl⟩
  · rintro ⟨m, hm⟩
    have hle : ((whole * 10 ^ few : ℕ) : ℚ) ≤ m := by
      push_cast
      linarith
    obtain ⟨rest, rfl⟩ := Nat.exists_eq_add_of_le (by exact_mod_cast hle : whole * 10 ^ few ≤ m)
    push_cast at hm
    exact ⟨rest, by linarith⟩

/-- For every finite number and every format that is a picture, if the number can be formatted: the text shows, between what
stands around the core and behind a sign if it is below zero, a number that is rounded once from half way away from zero to a
place for each place that the core has behind its first point, and for each further point. It shows no more decimals than
the core has places behind its first point exactly if the core has one point at most or the rounded number has no more
decimals than that. Unless it is a hundredth that the context changes so that it can be seen, the number that is shown is
also the one that is asked for rounded to such places, under the same condition; and the context changes no number of at
most 28 significant digits, none of them below the least exponent. -/
theorem decimals_within_places_iff {number : Number} {x : ℚ} (hnumber : number.Denotes x) {format shown : String}
    {before core after : List Char} (hstandard : StandardFormat.read? format.toList = none)
    (hcore : IsCore format.toList before core after)
    (hsides : ∀ c, c ∈ before ++ after → Text.isDigitSign c = false)
    (hshown : number.format format = .ok shown) :
    let many := min (fractionPlaces core + (core.count '.' - 1)) Decimal.mostPlaces
    let q := Tie.awayFromZero.rounded many (taken before after x)
    let fits := core.count '.' ≤ 1 ∨ ∃ m : ℤ, q * 10 ^ fractionPlaces core = m
    (∃ body whole fraction, shown.toList = before ++ (if q < 0 then ['-'] else []) ++ body ++ after ∧
        IsNumeral |q| body whole fraction ∧ (fraction.length ≤ fractionPlaces core ↔ fits)) ∧
      (q = Tie.awayFromZero.rounded many (asked before after x) →
        ((∃ places ≤ fractionPlaces core, q = Tie.awayFromZero.rounded places (asked before after x)) ↔ fits)) ∧
      (∀ (m : ℕ) (j : ℤ), m < 10 ^ 28 → Decimal.leastExponent ≤ j → |asked before after x| = m * 10 ^ j →
        q = Tie.awayFromZero.rounded many (asked before after x)) := by
  intro many q fits
  have hfits : fits ↔ ∃ m : ℤ, q * 10 ^ fractionPlaces core = m := by
    refine or_iff_right_of_imp fun hpoint => ?_
    have hfew : many ≤ fractionPlaces core := min_le_of_left_le (by omega)
    exact exists_mul_pow_of_le hfew (Tie.awayFromZero.exists_rounded_mul_pow many _)
  refine ⟨?_, ?_, ?_⟩
  · have happly := apply_of_format_eq_ok hstandard hcore hsides hshown
    obtain ⟨n, hsize, htext⟩ := exists_body_of_apply hcore.isCoreText hnumber happly
    refine ⟨_, _, _, htext, hsize ▸ isNumeral_body before core after many n, ?_⟩
    rw [hfits]
    exact length_fraction_le_iff hsize (count_zero_le_fractionPlaces core)
  · intro hseen
    rw [hfits]
    exact Tie.exists_rounded_iff hseen
  · intro m j hm hj hexact
    change Tie.awayFromZero.rounded many (taken before after x) = _
    rw [taken_eq_asked hm hj hexact]

/-- Two decimals fit two places, though the core has two points and so the number is rounded to three. -/
theorem decimals_within_places_iff_of_two_points :
    let number := Number.decimal (.finite true 1234 (-4))
    let x : ℚ := Decimal.worth true 1234 (-4)
    let q := Tie.awayFromZero.rounded 3 (taken [] " %".toList x)
    number.Denotes x ∧ StandardFormat.read? "0.0.0 %".toList = none ∧
      IsCore "0.0.0 %".toList [] "0.0.0".toList " %".toList ∧
      (∀ c, c ∈ [] ++ " %".toList → Text.isDigitSign c = false) ∧
      number.format "0.0.0 %" = .ok "-12.34 %" ∧ q = -1234 / 100 ∧
      (∃ body whole fraction, "-12.34 %".toList = [] ++ (if q < 0 then ['-'] else []) ++ body ++ " %".toList ∧
        IsNumeral |q| body whole fraction ∧ fraction.length ≤ 2) ∧
      ∃ places ≤ 2, q = Tie.awayFromZero.rounded places (asked [] " %".toList x) := by
  intro number x q
  have hnumber : number.Denotes x := .decimal true 1234 (-4)
  have hstandard : StandardFormat.read? "0.0.0 %".toList = none := by
    decide
  have hcore : IsCore "0.0.0 %".toList [] "0.0.0".toList " %".toList :=
    splitCore?_eq_some_iff.mp (by decide)
  have hsides : ∀ c, c ∈ [] ++ " %".toList → Text.isDigitSign c = false :=
    not_isDigitSign_of_any (by decide)
  have hshown : number.format "0.0.0 %" = .ok "-12.34 %" := by
    decide
  have hmany : min (fractionPlaces "0.0.0".toList + ("0.0.0".toList.count '.' - 1)) Decimal.mostPlaces = 3 := by
    decide
  have hplaces : fractionPlaces "0.0.0".toList = 2 := by
    decide
  have hasked : |asked [] " %".toList x| = (1234 : ℕ) * 10 ^ (-2 : ℤ) := by
    with_unfolding_all decide
  have hq : q = -1234 / 100 := by
    with_unfolding_all decide
  obtain ⟨⟨body, whole, fraction, htext, hnumeral, hlength⟩, hvalue, hkept⟩ :=
    decimals_within_places_iff hnumber hstandard hcore hsides hshown
  rw [hmany] at htext hnumeral hlength hvalue hkept
  have hfits : ∃ m : ℤ, q * 10 ^ 2 = m := ⟨-1234, by rw [hq]; norm_num⟩
  rw [hplaces] at hlength hvalue
  exact ⟨hnumber, hstandard, hcore, hsides, hshown, hq, ⟨body, whole, fraction, htext, hnumeral, hlength.mpr (.inr hfits)⟩,
    (hvalue (hkept 1234 (-2) (by decide) (by decide) hasked)).mpr (.inr hfits)⟩

/-- A point behind the core shows a third decimal in two places, and just below a half of a hundredth is shown as a hundredth
if it has too many digits for the context. -/
theorem shows_more_decimals_than_places :
    let number := Number.decimal (.finite false 123456 (-5))
    let x : ℚ := Decimal.worth false (5 * 10 ^ 29 - 1) (-32)
    StandardFormat.read? "0.00.".toList = none ∧ IsCore "0.00.".toList [] "0.00.".toList [] ∧
      fractionPlaces "0.00.".toList = 2 ∧ number.format "0.00." = .ok "1.235" ∧
      fractionPart "1.235".toList = "235".toList ∧ "235".toList.length = 3 ∧
      Number.format (.decimal (.finite false (5 * 10 ^ 29 - 1) (-32))) "0%" = .ok "1%" ∧
      ∀ places ≤ fractionPlaces "0".toList, Tie.awayFromZero.rounded places (asked [] ['%'] x) = 0 := by
  intro number x
  refine ⟨by decide, splitCore?_eq_some_iff.mp (by decide), by decide, by decide, rfl, rfl, by decide, ?_⟩
  with_unfolding_all decide

end Picture

end Numeric
end Stencil
