import Stencil.Render
import Stencil.Proofs.Journal.Outcome
import Stencil.Proofs.Numeric.Picture
import Stencil.Proofs.Numeric.Refusals

/-!
# How many digits pictures hold

A picture holds 28 digits. A whole number is never rounded in a picture: it is shown exactly if its digits, or those of a
hundred times the number, fit together with the places of the fraction, and it is refused if they do not
(`Picture.holds_integer_iff`). In a template, a number that is refused is shown by its plain text, as long as it has one.
-/

namespace Stencil
namespace Numeric
namespace Decimal

/-! ## Whole numbers in the context -/

/-- Fitting a number adds one digit before its point at most. -/
theorem leading_fitted_le (c : ℕ) (exponent : ℤ) :
    leading (fitted c exponent).1 (fitted c exponent).2 ≤ leading c exponent + 1 := by
  by_cases hfits : digitCount c ≤ precision
  · rw [fitted_of_le hfits]
    exact (lt_add_one (leading c exponent)).le
  · obtain ⟨dropped, hdropped⟩ := Nat.exists_eq_add_of_le (not_le.mp hfits).le
    have hupper := (rescaled_excess_bounds hdropped (by omega) exponent).2
    rw [fitted_of_excess hdropped (by omega), leading, leading, hdropped]
    split
    · next hfew =>
        dsimp only
        omega
    · next hmany =>
        have hcount : digitCount (10 ^ 28 / 10) = precision := digitCount_eq le_rfl (by decide)
        rw [eq_of_excess hmany hupper, hcount]
        dsimp only
        omega

/-- The context refuses only what is too large for it. -/
theorem settled_eq_error {negative : Bool} {c : ℕ} {exponent : ℤ} {fault : Fault}
    (h : settled negative c exponent = .error fault) :
    fault = .decimalOverflow ∧ maxExponent ≤ leading c exponent := by
  rw [settled] at h
  split at h
  · cases h
  · split at h
    · cases h
    · dsimp only at h
      split at h
      · next hlarge =>
          cases h
          have hfitted := leading_fitted_le c exponent
          exact ⟨rfl, by omega⟩
      · cases h

/-- A whole number that fits is kept. -/
theorem settled_of_fits {c : ℕ} (hc : c ≠ 0) (h : digitCount c ≤ precision) (negative : Bool) :
    settled negative c 0 = .ok (finite negative c 0) := by
  have hpos := digitCount_pos c
  have hleading : 0 ≤ leading c 0 ∧ leading c 0 < precision := by
    rw [leading]
    omega
  rw [precision] at hleading
  rw [settled, if_neg hc, fitted_of_le h, minExponent, maxExponent, if_neg (by omega)]
  dsimp only
  rw [if_neg (by omega)]
  rfl

/-- What the context makes of a whole number has as many digits before the point, or too many. -/
theorem settled_whole_eq_ok {negative : Bool} {c : ℕ} (hc : c ≠ 0) {d : Decimal} (h : settled negative c 0 = .ok d) :
    ∃ n target, d = finite negative n target ∧ n ≠ 0 ∧ 0 ≤ target ∧
      ((digitCount n : ℤ) + target = digitCount c ∨ (precision : ℤ) < digitCount n + target) := by
  by_cases hfits : digitCount c ≤ precision
  · rw [settled_of_fits hc hfits] at h
    cases h
    exact ⟨c, 0, rfl, hc, le_rfl, .inl (add_zero _)⟩
  · obtain ⟨n, target, rfl, ⟨hsmall, -⟩ | ⟨-, hfitted⟩⟩ := settled_eq_ok h
    · rw [← leading_lt_iff (Nat.pos_of_ne_zero hc), leading, minExponent] at hsmall
      omega
    · obtain ⟨hcount, htarget⟩ := fitted_of_gt (not_le.mp hfits) 0
      have hn := fitted_pos (Nat.pos_of_ne_zero hc) 0
      rw [← hfitted] at hcount htarget hn
      dsimp only at hcount htarget hn
      exact ⟨n, target, rfl, hn.ne', htarget.le, .inr (by omega)⟩

/-- A whole number that fits is exact in decimal places. -/
theorem quantized_of_fits {c places : ℕ} (hc : c ≠ 0) (h : digitCount c + places ≤ precision) (negative : Bool) :
    quantized places (finite negative c 0) = .ok (finite negative (c * 10 ^ places) (-(places : ℤ))) := by
  have hunit : unitExponent places = .ok (-(places : ℤ)) := by
    rw [precision] at h
    rw [unitExponent, maxExponent, precision, if_neg (by omega), leastExponent_eq, mostPlaces, max_eq_right (by omega)]
    rfl
  have hrescaled : rescaled .awayFromZero c 0 (-(places : ℤ)) = c * 10 ^ places := by
    rw [rescaled, if_pos (by omega), zero_sub, neg_neg, Int.toNat_natCast]
  have hcount : digitCount (c * 10 ^ places) = digitCount c + places := digitCount_mul_pow (Nat.pos_of_ne_zero hc) places
  rw [quantized, hunit]
  dsimp only [bind, Except.bind]
  rw [if_neg hc, if_neg (by omega), hrescaled, hcount, if_neg (by omega)]
  rfl

/-- A whole number with too many digits is not brought to decimal places. -/
theorem quantized_of_excess {c places : ℕ} (hc : c ≠ 0) {exponent : ℤ} (hwhole : 0 ≤ exponent)
    (h : (precision : ℤ) < digitCount c + exponent + places) (negative : Bool) :
    quantized places (finite negative c exponent) = .error .decimalInvalid := by
  rw [quantized]
  cases hunit : unitExponent places with
  | error fault =>
      rw [unitExponent] at hunit
      split at hunit
      · cases hunit
        rfl
      · cases hunit
  | ok target =>
      obtain rfl := unitExponent_eq_ok hunit
      have hmany : (precision : ℤ) < digitCount c + (exponent - -((min places mostPlaces : ℕ) : ℤ)) := by
        rw [precision, mostPlaces] at *
        omega
      dsimp only [bind, Except.bind]
      rw [if_neg hc, if_pos hmany]
      rfl

end Decimal

namespace Picture

/-! ## Whole numbers in pictures -/

/-- The whole number that is asked for between two texts: a hundred times the given one, if there is a per cent sign in one
of them. -/
def askedInteger (before after : List Char) (n : ℤ) : ℤ :=
  if '%' ∈ before ++ after then 100 * n else n

section Integer

variable (before after : List Char) {core : List Char} {n : ℤ}

theorem natAbs_askedInteger_ne_zero (hn : n ≠ 0) : (askedInteger before after n).natAbs ≠ 0 := by
  rw [askedInteger]
  split <;> omega

/-- A hundred times a number has two digits more. -/
theorem digitCount_askedInteger (hn : n ≠ 0) :
    digitCount n.natAbs ≤ digitCount (askedInteger before after n).natAbs ∧
      digitCount (askedInteger before after n).natAbs ≤ digitCount n.natAbs + 2 := by
  rw [askedInteger]
  split
  · have hcount : digitCount (n.natAbs * 100) = digitCount n.natAbs + 2 :=
      digitCount_mul_pow (Int.natAbs_pos.mpr hn) 2
    have hmul : (100 * n).natAbs = n.natAbs * 100 := by
      omega
    rw [hmul, hcount]
    exact ⟨Nat.le_add_right _ 2, le_rfl⟩
  · exact ⟨le_rfl, Nat.le_add_right _ 2⟩

/-- The number that is asked for is what is rounded, as far as the context can hold it. -/
theorem rounded_integer (hcore : IsCoreText core) (hpoint : core.count '.' ≤ 1)
    (hfew : digitCount n.natAbs ≤ maxDigits) :
    (ofCore before core after).rounded (.integer n) =
      (if '%' ∈ before ++ after then Decimal.settled (n < 0) (askedInteger before after n).natAbs 0
        else .ok (.finite (n < 0) (askedInteger before after n).natAbs 0)) >>=
          Decimal.quantized (fractionPlaces core) := by
  have hplaces : (ofCore before core after).places = fractionPlaces core := places_ofCore hcore hpoint
  have hdecimal := toDecimal_integer_of_le hfew
  by_cases hpercent : '%' ∈ before ++ after
  · rw [if_pos hpercent, askedInteger, if_pos hpercent, Int.natAbs_mul,
      rounded_of_percent (isPercent_ofCore_iff.mpr hpercent) hdecimal, hplaces]
    rfl
  · rw [if_neg hpercent, askedInteger, if_neg hpercent,
      rounded_of_no_percent (isPercent_ofCore_eq_false_iff.mpr hpercent) hdecimal, hplaces]
    rfl

/-- A whole number whose digits fit is shown as it is. -/
theorem rounded_integer_of_fits (hcore : IsCoreText core) (hpoint : core.count '.' ≤ 1) (hn : n ≠ 0)
    (h : digitCount (askedInteger before after n).natAbs + fractionPlaces core ≤ Decimal.precision) :
    (ofCore before core after).rounded (.integer n) =
      .ok (.finite (n < 0) ((askedInteger before after n).natAbs * 10 ^ fractionPlaces core)
        (-(fractionPlaces core : ℤ))) := by
  have hm := natAbs_askedInteger_ne_zero before after hn
  have hcount := (digitCount_askedInteger before after hn).1
  have hfew : digitCount n.natAbs ≤ maxDigits := by
    rw [Decimal.precision] at h
    rw [maxDigits]
    omega
  rw [rounded_integer before after hcore hpoint hfew, Decimal.settled_of_fits hm (by omega), ite_self]
  exact Decimal.quantized_of_fits hm h _

/-- A whole number whose digits do not fit is refused, because it has no text or because its digits do not fit. It is never
too large for the context altogether, since it would have too many digits for a text long before. -/
theorem rounded_integer_of_excess (hcore : IsCoreText core) (hpoint : core.count '.' ≤ 1) (hn : n ≠ 0)
    (h : Decimal.precision < digitCount (askedInteger before after n).natAbs + fractionPlaces core) :
    ∃ fault, (ofCore before core after).rounded (.integer n) = .error fault ∧
      (fault = .decimalInvalid ∨ fault = .tooManyDigits) := by
  have hm := natAbs_askedInteger_ne_zero before after hn
  have hcount := (digitCount_askedInteger before after hn).2
  obtain hfew | hmany := le_or_gt (digitCount n.natAbs) maxDigits
  · rw [rounded_integer before after hcore hpoint hfew]
    split
    · cases hd : Decimal.settled (n < 0) (askedInteger before after n).natAbs 0 with
      | error fault =>
          obtain ⟨rfl, hlarge⟩ := Decimal.settled_eq_error hd
          rw [Decimal.leading, Decimal.maxExponent] at hlarge
          rw [maxDigits] at hfew
          omega
      | ok d =>
          obtain ⟨c, target, rfl, hc, hwhole, hdigits⟩ := Decimal.settled_whole_eq_ok hm hd
          exact ⟨_, Decimal.quantized_of_excess hc hwhole (by omega) _, .inl rfl⟩
    · exact ⟨_, Decimal.quantized_of_excess hm le_rfl (by omega) _, .inl rfl⟩
  · exact ⟨_, rounded_of_error (toDecimal_integer_of_lt hmany), .inr rfl⟩

theorem askedInteger_neg_iff : askedInteger before after n < 0 ↔ n < 0 := by
  rw [askedInteger]
  split <;> omega

/-- The text of a whole number whose digits fit. -/
theorem apply_integer_of_fits (hcore : IsCoreText core) (hpoint : core.count '.' ≤ 1) (hn : n ≠ 0)
    (h : digitCount (askedInteger before after n).natAbs + fractionPlaces core ≤ Decimal.precision) :
    ∃ body whole fraction,
      (ofCore before core after).apply (.integer n) =
          .ok (before ++ (if askedInteger before after n < 0 then ['-'] else []) ++ body ++ after) ∧
        IsBody core (askedInteger before after n).natAbs body whole fraction := by
  have hm := natAbs_askedInteger_ne_zero before after hn
  have hten : 10 ^ fractionPlaces core ≠ 0 := (Nat.pow_pos (by decide)).ne'
  have hbody := isBody_body before after hcore le_rfl ((askedInteger before after n).natAbs * 10 ^ fractionPlaces core)
  have hsize : (((askedInteger before after n).natAbs * 10 ^ fractionPlaces core : ℕ) : ℚ) / 10 ^ fractionPlaces core =
      (askedInteger before after n).natAbs := by
    push_cast
    exact mul_div_cancel_right₀ _ (by exact_mod_cast hten)
  rw [hsize] at hbody
  refine ⟨_, _, _, ?_, hbody⟩
  rw [apply_eq_ok_iff, rounded_integer_of_fits before after hcore hpoint hn h]
  have hsign : (decide (n < 0) && decide ((askedInteger before after n).natAbs * 10 ^ fractionPlaces core ≠ 0)) =
      decide (askedInteger before after n < 0) := by
    rw [decide_eq_true (Nat.mul_ne_zero hm hten), Bool.and_true, decide_eq_decide, askedInteger_neg_iff]
  have hdisplay := display_ofCore before core after (n < 0)
    ((askedInteger before after n).natAbs * 10 ^ fractionPlaces core) (fractionPlaces core)
  rw [hsign] at hdisplay
  simpa using hdisplay

/-- A whole number whose digits do not fit is a bad value. -/
theorem apply_integer_of_excess (hcore : IsCoreText core) (hpoint : core.count '.' ≤ 1) (hn : n ≠ 0)
    (h : Decimal.precision < digitCount (askedInteger before after n).natAbs + fractionPlaces core) :
    ∃ fault, (ofCore before core after).apply (.integer n) = .error fault ∧ fault.kind = .badValue := by
  obtain ⟨fault, hrounded, rfl | rfl⟩ := rounded_integer_of_excess before after hcore hpoint hn h
  · refine ⟨.specRefused .pictureUnfit, ?_, rfl⟩
    rw [apply, hrounded]
    rfl
  · refine ⟨.tooManyDigits, ?_, rfl⟩
    rw [apply, hrounded]
    rfl

end Integer

/-- In a format that is a picture, a whole number whose digits do not fit is a bad value. -/
theorem format_integer_of_excess {n : ℤ} {format : String} {before core after : List Char}
    (hstandard : StandardFormat.read? format.toList = none) (hcore : IsCore format.toList before core after)
    (hpoint : core.count '.' ≤ 1) (hsides : ∀ c, c ∈ before ++ after → Text.isDigitSign c = false) (hn : n ≠ 0)
    (h : Decimal.precision < digitCount (askedInteger before after n).natAbs + fractionPlaces core) :
    ∃ fault, (Number.integer n).format format = .error fault ∧ fault.kind = .badValue := by
  obtain ⟨fault, happly, hkind⟩ := apply_integer_of_excess before after hcore.isCoreText hpoint hn h
  refine ⟨fault, ?_, hkind⟩
  rw [format_of_isCore (.integer n) hstandard hcore hsides, happly]
  rfl

end Picture

end Numeric

/-- A whole number in a format is shown as the format shows it, or by its plain text. -/
theorem Value.result_showWith_integer {value : Value} {n : ℤ} (h : value.number? = some (.integer n)) (format : String)
    (voice : Voice) :
    (value.showWith (some format)).result voice =
      match (Numeric.Number.integer n).format format with
      | .ok shown => .ok shown
      | .error _ => String.ofList <$> Numeric.integerText n := by
  have hplain : value.ignoresFormats = false ∧ value.typeFault? = none ∧
      value.format format = (Numeric.Number.integer n).format format ∧
      value.plainText = String.ofList <$> Numeric.integerText n := by
    cases value with
    | integer number =>
        cases h
        exact ⟨rfl, rfl, rfl, rfl⟩
    | numberMember typeName name number =>
        cases h
        exact ⟨rfl, rfl, rfl, rfl⟩
    | _ => cases h
  obtain ⟨hformats, hclass, hformat, htext⟩ := hplain
  rw [Value.showWith, hformats, hclass, hformat, htext, if_neg Bool.false_ne_true]
  cases hshown : (Numeric.Number.integer n).format format with
  | ok shown => rfl
  | error fault =>
      obtain ⟨hkind, reason, hreason⟩ := Numeric.refusesOnly_format _ _ fault hshown
      dsimp only
      rw [if_pos hkind, hreason, Noted.result_bind, Noted.result_ofExcept, Noted.ok_bind, Noted.result_bind,
        Noted.result_note]
      rfl

namespace Numeric
namespace Picture

/-- For every whole number but zero and every format that is a picture, with one point at most in its core: the number is
refused, as a bad value, exactly if its digits, or those of a hundred times the number if there is a per cent sign around the
core, and the places of the fraction are more than 28 together. Then a template shows its plain text if it has one, and
fails for a number with too many digits to have one. Every other number is shown without rounding. -/
theorem holds_integer_iff {value : Value} {n : ℤ} (hvalue : value.number? = some (.integer n)) (hn : n ≠ 0)
    {format : String} {before core after : List Char} (hstandard : StandardFormat.read? format.toList = none)
    (hcore : IsCore format.toList before core after) (hpoint : core.count '.' ≤ 1)
    (hsides : ∀ c, c ∈ before ++ after → Text.isDigitSign c = false) :
    let m := askedInteger before after n
    let refused := 28 < digitCount m.natAbs + fractionPlaces core
    ((∃ fault, (Number.integer n).format format = .error fault) ↔ refused) ∧
      (∀ fault, (Number.integer n).format format = .error fault → fault.kind = .badValue) ∧
      (refused → n.natAbs < 10 ^ maxDigits → ∀ voice, (value.showWith (some format)).result voice =
        .ok (String.ofList (signedDigits n))) ∧
      (10 ^ maxDigits ≤ n.natAbs → refused ∧
        ∀ voice, (value.showWith (some format)).result voice = .error .tooManyDigits) ∧
      (¬ refused → ∃ shown body whole fraction, (Number.integer n).format format = .ok shown ∧
        (∀ voice, (value.showWith (some format)).result voice = .ok shown) ∧
        shown.toList = before ++ (if m < 0 then ['-'] else []) ++ body ++ after ∧
        IsBody core m.natAbs body whole fraction) := by
  intro m refused
  have hcount : digitCount n.natAbs ≤ digitCount m.natAbs := (digitCount_askedInteger before after hn).1
  have hlong : 10 ^ maxDigits ≤ n.natAbs → maxDigits < digitCount n.natAbs := fun hmany =>
    not_le.mp (mt digitCount_le_maxDigits_iff.mp (not_lt.mpr hmany))
  by_cases hrefused : refused
  · obtain ⟨fault, hfault, hkind⟩ := format_integer_of_excess hstandard hcore hpoint hsides hn hrefused
    have hplain := fun voice => Value.result_showWith_integer hvalue format voice
    rw [hfault] at hplain
    dsimp only at hplain
    refine ⟨iff_of_true ⟨fault, hfault⟩ hrefused, ?_, fun _ hfew voice => ?_, fun hmany => ⟨hrefused, fun voice => ?_⟩,
      fun h => absurd hrefused h⟩
    · intro other hother
      rw [hfault] at hother
      cases hother
      exact hkind
    · rw [hplain, integerText_of_le (digitCount_le_maxDigits_iff.mpr hfew)]
      rfl
    · rw [hplain, integerText_of_lt (hlong hmany)]
      rfl
  · obtain ⟨body, whole, fraction, happly, hbody⟩ :=
      apply_integer_of_fits before after hcore.isCoreText hpoint hn (not_lt.mp hrefused)
    have hshown : (Number.integer n).format format = .ok (String.ofList
        (before ++ (if m < 0 then ['-'] else []) ++ body ++ after)) := by
      rw [format_of_isCore (.integer n) hstandard hcore hsides, happly]
      rfl
    refine ⟨iff_of_false ?_ hrefused, ?_, fun h => absurd h hrefused, fun hmany => ?_, fun _ => ?_⟩
    · rintro ⟨fault, hfault⟩
      rw [hshown] at hfault
      cases hfault
    · intro fault hfault
      rw [hshown] at hfault
      cases hfault
    · -- a number without a text has far more than 28 digits
      have hdigits := hlong hmany
      rw [maxDigits] at hdigits
      omega
    · refine ⟨_, body, whole, fraction, hshown, fun voice => ?_, String.toList_ofList, hbody⟩
      rw [Value.result_showWith_integer hvalue, hshown]

/-- A hundred times a number has just 28 digits, and a hundred times ten times the number has one more. -/
theorem holds_integer_iff_of_limit :
    let small : ℤ := -10000000000000000000000000
    let large : ℤ := -100000000000000000000000000
    (Value.integer small).number? = some (.integer small) ∧ (Value.integer large).number? = some (.integer large) ∧
      small ≠ 0 ∧ large ≠ 0 ∧ StandardFormat.read? "#,##0 %".toList = none ∧
      IsCore "#,##0 %".toList [] "#,##0".toList " %".toList ∧ "#,##0".toList.count '.' ≤ 1 ∧
      (∀ c, c ∈ [] ++ " %".toList → Text.isDigitSign c = false) ∧ large.natAbs < 10 ^ maxDigits ∧
      (Number.integer small).format "#,##0 %" = .ok "-1,000,000,000,000,000,000,000,000,000 %" ∧
      (∃ shown body whole fraction, (Number.integer small).format "#,##0 %" = .ok shown ∧
        (∀ voice, ((Value.integer small).showWith (some "#,##0 %")).result voice = .ok shown) ∧
        shown.toList = [] ++ (if askedInteger [] " %".toList small < 0 then ['-'] else []) ++ body ++ " %".toList ∧
        IsBody "#,##0".toList (askedInteger [] " %".toList small).natAbs body whole fraction) ∧
      (∃ fault, (Number.integer large).format "#,##0 %" = .error fault ∧ fault.kind = .badValue) ∧
      ∀ voice, ((Value.integer large).showWith (some "#,##0 %")).result voice =
        .ok (String.ofList (signedDigits large)) := by
  intro small large
  have hsmall : (Value.integer small).number? = some (.integer small) := rfl
  have hlarge : (Value.integer large).number? = some (.integer large) := rfl
  have hsmallNe : small ≠ 0 := by
    decide
  have hlargeNe : large ≠ 0 := by
    decide
  have hstandard : StandardFormat.read? "#,##0 %".toList = none := by
    decide
  have hcore : IsCore "#,##0 %".toList [] "#,##0".toList " %".toList :=
    splitCore?_eq_some_iff.mp (by decide)
  have hpoint : "#,##0".toList.count '.' ≤ 1 := by
    decide
  have hsides : ∀ c, c ∈ [] ++ " %".toList → Text.isDigitSign c = false :=
    not_isDigitSign_of_any (by decide)
  have hfits : ¬ 28 < digitCount (askedInteger [] " %".toList small).natAbs + fractionPlaces "#,##0".toList := by
    decide
  have hexcess : 28 < digitCount (askedInteger [] " %".toList large).natAbs + fractionPlaces "#,##0".toList := by
    decide
  have hfew : large.natAbs < 10 ^ maxDigits :=
    lt_of_lt_of_le (by decide : large.natAbs < 10 ^ 27) (Nat.pow_le_pow_right (by decide) (by decide))
  obtain ⟨-, -, -, -, hshown⟩ := holds_integer_iff hsmall hsmallNe hstandard hcore hpoint hsides
  obtain ⟨hiff, hkind, hplain, -⟩ := holds_integer_iff hlarge hlargeNe hstandard hcore hpoint hsides
  obtain ⟨fault, hfault⟩ := hiff.mpr hexcess
  refine ⟨hsmall, hlarge, hsmallNe, hlargeNe, hstandard, hcore, hpoint, hsides, hfew, ?_, hshown hfits,
    ⟨fault, hfault, hkind fault hfault⟩, hplain hexcess hfew⟩
  with_unfolding_all decide

/-- The least number without a text is refused by a picture, and has no plain text to be shown instead. -/
theorem shows_nothing_beyond_limit :
    let n : ℤ := 10 ^ maxDigits
    n ≠ 0 ∧ StandardFormat.read? "0".toList = none ∧ IsCore "0".toList [] "0".toList [] ∧
      (∃ fault, (Number.integer n).format "0" = .error fault ∧ fault.kind = .badValue) ∧
      integerText n = .error .tooManyDigits ∧
      ∀ voice, ((Value.integer n).showWith (some "0")).result voice = .error .tooManyDigits := by
  intro n
  have hn : n ≠ 0 := by positivity
  have hstandard : StandardFormat.read? "0".toList = none := by
    decide
  have hcore : IsCore "0".toList [] "0".toList [] := splitCore?_eq_some_iff.mp (by decide)
  have hmany : maxDigits < digitCount n.natAbs :=
    not_le.mp (mt digitCount_le_maxDigits_iff.mp (not_lt.mpr (natAbs_ten_pow maxDigits).ge))
  have hexcess : Decimal.precision < digitCount (askedInteger [] [] n).natAbs + fractionPlaces "0".toList :=
    Nat.lt_of_lt_of_le (Nat.lt_trans (by decide) hmany)
      (Nat.le_trans (digitCount_askedInteger [] [] hn).1 (Nat.le_add_right _ _))
  obtain ⟨fault, hfault, hkind⟩ :=
    format_integer_of_excess hstandard hcore (by decide) (List.forall_mem_nil _) hn hexcess
  have htext := integerText_of_lt hmany
  refine ⟨hn, hstandard, hcore, ⟨fault, hfault, hkind⟩, htext, fun voice => ?_⟩
  rw [Value.result_showWith_integer rfl, hfault]
  dsimp only
  rw [htext]
  rfl

end Picture
end Numeric
end Stencil
