import Stencil.Numeric.Format
import Stencil.Proofs.Numeric.Body
import Stencil.Proofs.Numeric.Decimal

/-!
# What pictures show

A picture shows a number that is rounded once, to the places that its core has behind the point, between the two texts
around the core (`Picture.shows_rounded_number`). Two limits of decimal numbers are seen in this: there are no more places
than the least exponent allows, so what is smaller is not shown in any core (`shows_nothing_below_least_exponent`); and a
hundred times a number is rounded there before it is rounded to places. The limit on digits is not seen: a number with more
of them than the context holds is refused.
-/

namespace Stencil
namespace Numeric

/-- A whole number, or a finite decimal number of at most 28 significant digits, and the rational number it stands for. -/
inductive Number.IsWorth : Number → ℚ → Prop
  | integer (n : ℤ) : IsWorth (.integer n) n
  | decimal (negative : Bool) (significant zeros : ℕ) (exponent : ℤ) (h : significant < 10 ^ 28) :
      IsWorth (.decimal (.finite negative (significant * 10 ^ zeros) exponent))
        (Decimal.worth negative (significant * 10 ^ zeros) exponent)

namespace Picture

/-! ## The number that is shown -/

/-- The number that is shown between two texts: in hundredths, if there is a per cent sign in one of them. -/
def scaled (before after : List Char) (x : ℚ) : ℚ :=
  if '%' ∈ before ++ after then Decimal.hundredfold x else x

/-- A whole number has its own worth as a decimal number. -/
theorem worth_ofInt (n : ℤ) : Decimal.worth (n < 0) n.natAbs 0 = n := by
  rw [Decimal.worth, zpow_zero, mul_one, Nat.cast_natAbs]
  by_cases hn : n < 0
  · simp [hn, abs_of_neg hn]
  · simp [hn, abs_of_nonneg (not_lt.mp hn)]

/-- A whole number is itself as a decimal number, if it has a text. -/
theorem toDecimal_integer_of_le {n : ℤ} (h : digitCount n.natAbs ≤ maxDigits) :
    toDecimal (.integer n) = .ok (.ofInt n) := by
  rw [toDecimal, integerText_of_le h]
  rfl

theorem toDecimal_integer_of_lt {n : ℤ} (h : maxDigits < digitCount n.natAbs) :
    toDecimal (.integer n) = .error .tooManyDigits := by
  rw [toDecimal, integerText_of_lt h]
  rfl

theorem toDecimal_integer_eq_ok {n : ℤ} {d : Decimal} (h : toDecimal (.integer n) = .ok d) : d = .ofInt n := by
  obtain hfew | hmany := le_or_gt (digitCount n.natAbs) maxDigits
  · rw [toDecimal_integer_of_le hfew] at h
    cases h
    rfl
  · rw [toDecimal_integer_of_lt hmany] at h
    cases h

/-- The numbers with a worth have an exact decimal form, if any, and the context can hold its significant digits unless it is
whole. -/
theorem toDecimal_eq_ok {number : Number} {x : ℚ} (h : number.IsWorth x) {d : Decimal} (hd : toDecimal number = .ok d) :
    ∃ negative c exponent, d = .finite negative c exponent ∧
      Decimal.worth negative c exponent = x ∧
      ((∃ m k, m < 10 ^ Decimal.precision ∧ c = m * 10 ^ k) ∨ 0 ≤ exponent) := by
  cases h with
  | integer n => exact ⟨n < 0, n.natAbs, 0, toDecimal_integer_eq_ok hd, worth_ofInt n, .inr le_rfl⟩
  | decimal negative significant zeros exponent h =>
      cases hd
      exact ⟨negative, significant * 10 ^ zeros, exponent, rfl, rfl, .inl ⟨significant, zeros, h, rfl⟩⟩

theorem isPercent_ofCore_iff {before core after : List Char} :
    (ofCore before core after).isPercent = true ↔ '%' ∈ before ++ after := by
  simp [isPercent, ofCore]

theorem isPercent_ofCore_eq_false_iff {before core after : List Char} :
    (ofCore before core after).isPercent = false ↔ '%' ∉ before ++ after := by
  rw [← Bool.not_eq_true, isPercent_ofCore_iff]

theorem rounded_of_percent {picture : Picture} {number : Number} {d : Decimal}
    (h : picture.isPercent = true) (hd : toDecimal number = .ok d) :
    picture.rounded number = d.percent >>= Decimal.quantized picture.places := by
  rw [rounded, hd, h]
  rfl

theorem rounded_of_no_percent {picture : Picture} {number : Number} {d : Decimal}
    (h : picture.isPercent = false) (hd : toDecimal number = .ok d) :
    picture.rounded number = d.quantized picture.places := by
  rw [rounded, hd, h]
  rfl

/-- What has no decimal form is not rounded either. -/
theorem rounded_of_error {picture : Picture} {number : Number} {fault : Fault}
    (h : toDecimal number = .error fault) : picture.rounded number = .error fault := by
  rw [rounded, h]
  rfl

theorem exists_toDecimal_of_rounded {picture : Picture} {number : Number} {d : Decimal}
    (h : picture.rounded number = .ok d) : ∃ exact, toDecimal number = .ok exact := by
  cases hdecimal : toDecimal number with
  | error fault =>
      rw [rounded_of_error hdecimal] at h
      cases h
  | ok exact => exact ⟨exact, rfl⟩

/-- The number that a picture shows is rounded once. -/
theorem rounded_eq_ok {before core after : List Char} {number : Number} {x : ℚ} (hnumber : number.IsWorth x)
    {d : Decimal} (h : (ofCore before core after).rounded number = .ok d) :
    ∃ negative c exponent, Decimal.worth negative c exponent = scaled before after x ∧
      Decimal.quantized (ofCore before core after).places (.finite negative c exponent) = .ok d := by
  obtain ⟨exact, hdecimal⟩ := exists_toDecimal_of_rounded h
  obtain ⟨negative, c, exponent, rfl, hworth, hexact⟩ := toDecimal_eq_ok hnumber hdecimal
  by_cases hpercent : '%' ∈ before ++ after
  · rw [rounded_of_percent (isPercent_ofCore_iff.mpr hpercent) hdecimal] at h
    cases hd : Decimal.percent (.finite negative c exponent) with
    | error fault =>
        rw [hd] at h
        cases h
    | ok hundred =>
        rw [hd] at h
        obtain ⟨n, target, rfl, hscaled | ⟨hn, hlarge⟩⟩ := Decimal.percent_eq_ok hexact hd
        · refine ⟨negative, n, target, ?_, h⟩
          rw [hscaled, hworth, scaled, if_pos hpercent]
        · -- more digits before the point than the context has cannot be rounded to decimal places
          have hfits := (Decimal.quantized_eq_ok h).2 hn
          omega
  · rw [rounded_of_no_percent (isPercent_ofCore_eq_false_iff.mpr hpercent) hdecimal] at h
    refine ⟨negative, c, exponent, ?_, h⟩
    rw [hworth, scaled, if_neg hpercent]

/-- A picture shows what is made of the rounded number. -/
theorem apply_eq_ok_iff {picture : Picture} {number : Number} {text : List Char} :
    picture.apply number = .ok text ↔ picture.rounded number >>= picture.display = .ok text := by
  rw [apply]
  split
  · next hrefused =>
      rw [hrefused]
      exact iff_of_false nofun nofun
  · next hrefused =>
      rw [hrefused]
      exact iff_of_false nofun nofun
  · exact Iff.rfl

theorem display_ofCore (before core after : List Char) (negative : Bool) (n places : ℕ) :
    (ofCore before core after).display (.finite negative n (-(places : ℤ))) =
      .ok (before ++ (if negative && n ≠ 0 then ['-'] else []) ++ (ofCore before core after).body places n ++
        after) := by
  rw [display, neg_neg, Int.toNat_natCast]
  rfl

/-- The sign and the size of a number that is given in units of its last decimal place. -/
theorem sign_and_size (negative : Bool) (n places : ℕ) {q : ℚ}
    (hq : q = (if negative then -1 else 1) * (n / 10 ^ places)) :
    |q| = n / 10 ^ places ∧ (q < 0 ↔ (negative && n ≠ 0) = true) := by
  have hten : (0 : ℚ) < 10 ^ places := by positivity
  have hsize : (0 : ℚ) ≤ n / 10 ^ places := by positivity
  subst hq
  cases negative with
  | false => simp [abs_of_nonneg hsize, not_lt.mpr hsize]
  | true =>
      refine ⟨by simp [abs_of_nonneg hsize], ?_⟩
      simp only [if_true, neg_one_mul, Left.neg_neg_iff, Bool.true_and, decide_eq_true_eq]
      rw [div_pos_iff_of_pos_right hten, Nat.cast_pos, Nat.pos_iff_ne_zero]

/-- What is shown of a number that has been rounded to decimal places. -/
theorem display_quantized {before core after text : List Char} {places : ℕ} {negative : Bool} {c : ℕ} {exponent : ℤ}
    {d : Decimal} (hd : Decimal.quantized places (.finite negative c exponent) = .ok d)
    (htext : (ofCore before core after).display d = .ok text) :
    let q := Tie.awayFromZero.rounded (min places Decimal.mostPlaces) (Decimal.worth negative c exponent)
    ∃ n : ℕ, |q| = n / 10 ^ min places Decimal.mostPlaces ∧
      text = before ++ (if q < 0 then ['-'] else []) ++
        (ofCore before core after).body (min places Decimal.mostPlaces) n ++ after := by
  intro q
  obtain ⟨rfl, -⟩ := Decimal.quantized_eq_ok hd
  have hq := Decimal.rounded_worth .awayFromZero (min places Decimal.mostPlaces) negative c exponent
  generalize Tie.awayFromZero.nearest _ = n at htext hq
  obtain ⟨hsize, hsign⟩ := sign_and_size negative n _ hq
  refine ⟨n, hsize, ?_⟩
  rw [display_ofCore] at htext
  cases htext
  simp only [q, hsign]

/-- What a picture shows of a number: the number is rounded once, from half way away from zero, to the places of the core,
and stands in the places of the core between the two texts, behind a sign if it is below zero. -/
theorem apply_eq_ok {before core after text : List Char} {number : Number} {x : ℚ} (hcore : IsCoreText core)
    (hpoint : core.count '.' ≤ 1) (hnumber : number.IsWorth x)
    (h : (ofCore before core after).apply number = .ok text) :
    let q := Tie.awayFromZero.rounded (min (fractionPlaces core) Decimal.mostPlaces) (scaled before after x)
    ∃ body whole fraction, text = before ++ (if q < 0 then ['-'] else []) ++ body ++ after ∧
      IsBody core |q| body whole fraction := by
  intro q
  have hshown := apply_eq_ok_iff.mp h
  cases hd : (ofCore before core after).rounded number with
  | error fault =>
      rw [hd] at hshown
      cases hshown
  | ok d =>
      rw [hd] at hshown
      obtain ⟨negative, c, exponent, hworth, hquantized⟩ := rounded_eq_ok hnumber hd
      rw [places_ofCore hcore hpoint] at hquantized
      obtain ⟨n, hsize, htext⟩ := display_quantized hquantized hshown
      rw [hworth] at hsize htext
      have hbody := isBody_body before after hcore (min_le_left _ Decimal.mostPlaces) n
      exact ⟨_, _, _, htext, hsize ▸ hbody⟩

/-- A format that is no standard format and has no digits around its core is a picture. -/
theorem format_of_isCore (number : Number) {format : String} {before core after : List Char}
    (hstandard : StandardFormat.read? format.toList = none) (hcore : IsCore format.toList before core after)
    (hsides : ∀ c, c ∈ before ++ after → Text.isDigitSign c = false) :
    number.format format = String.ofList <$> (ofCore before core after).apply number := by
  rw [Number.format, hstandard, read?_of_isCore hcore hsides]

/-- What a format shows is what its picture shows. -/
theorem apply_of_format_eq_ok {number : Number} {format shown : String} {before core after : List Char}
    (hstandard : StandardFormat.read? format.toList = none) (hcore : IsCore format.toList before core after)
    (hsides : ∀ c, c ∈ before ++ after → Text.isDigitSign c = false) (hshown : number.format format = .ok shown) :
    (ofCore before core after).apply number = .ok shown.toList := by
  rw [format_of_isCore number hstandard hcore hsides] at hshown
  cases happly : (ofCore before core after).apply number with
  | error fault =>
      rw [happly] at hshown
      cases hshown
  | ok text =>
      rw [happly] at hshown
      cases hshown
      rw [String.toList_ofList]

/-- For every whole number, and every finite decimal number of at most 28 significant digits, and every format that is no
standard format and has no digits around its core, which has one point at most: if the number can be formatted, the text is
what is before the core, a minus sign if the rounded number is below zero, a body for the size of the rounded number in the
places of the core, and what is behind it. The number is rounded once, from half way away from zero, to the places that the
core has behind its point, or the most there can be; if there is a per cent sign around the core, it is first taken a
hundred times, which is exact unless that is too small for all its digits. -/
theorem shows_rounded_number {number : Number} {x : ℚ} (hnumber : number.IsWorth x) {format shown : String}
    {before core after : List Char} (hstandard : StandardFormat.read? format.toList = none)
    (hcore : IsCore format.toList before core after) (hpoint : core.count '.' ≤ 1)
    (hsides : ∀ c, c ∈ before ++ after → Text.isDigitSign c = false)
    (hshown : number.format format = .ok shown) :
    let q := Tie.awayFromZero.rounded (min (fractionPlaces core) Decimal.mostPlaces) (scaled before after x)
    ∃ body whole fraction, shown.toList = before ++ (if q < 0 then ['-'] else []) ++ body ++ after ∧
      IsBody core |q| body whole fraction := by
  exact apply_eq_ok hcore.isCoreText hpoint hnumber (apply_of_format_eq_ok hstandard hcore hsides hshown)

/-- A carry runs through the fraction into the thousands. -/
theorem shows_rounded_number_of_carry :
    let number := Number.decimal (.finite true 1999995 (-3))
    let x : ℚ := Decimal.worth true (1999995 * 10 ^ 0) (-3)
    let q := Tie.awayFromZero.rounded 2 x
    number.IsWorth x ∧ StandardFormat.read? "#,##0.00 kg".toList = none ∧
      IsCore "#,##0.00 kg".toList [] "#,##0.00".toList " kg".toList ∧
      "#,##0.00".toList.count '.' ≤ 1 ∧
      (∀ c, c ∈ [] ++ " kg".toList → Text.isDigitSign c = false) ∧
      number.format "#,##0.00 kg" = .ok "-2,000.00 kg" ∧ q = -2000 ∧
      ∃ body whole fraction,
        "-2,000.00 kg".toList = [] ++ (if q < 0 then ['-'] else []) ++ body ++ " kg".toList ∧
        IsBody "#,##0.00".toList |q| body whole fraction := by
  intro number x q
  have hnumber : number.IsWorth x := .decimal true 1999995 0 (-3) (by decide)
  have hstandard : StandardFormat.read? "#,##0.00 kg".toList = none := by
    decide
  have hcore : IsCore "#,##0.00 kg".toList [] "#,##0.00".toList " kg".toList :=
    splitCore?_eq_some_iff.mp (by decide)
  have hpoint : "#,##0.00".toList.count '.' ≤ 1 := by
    decide
  have hsides : ∀ c, c ∈ [] ++ " kg".toList → Text.isDigitSign c = false :=
    not_isDigitSign_of_any (by decide)
  have hshown : number.format "#,##0.00 kg" = .ok "-2,000.00 kg" := by
    with_unfolding_all rfl
  have hq : q = -2000 := by
    with_unfolding_all decide
  have hplaces : min (fractionPlaces "#,##0.00".toList) Decimal.mostPlaces = 2 := by
    decide
  have hscaled : scaled [] " kg".toList x = x := if_neg (by decide)
  have hrounded := shows_rounded_number hnumber hstandard hcore hpoint hsides hshown
  dsimp only at hrounded
  rw [hplaces, hscaled] at hrounded
  exact ⟨hnumber, hstandard, hcore, hpoint, hsides, hshown, hq, hrounded⟩

/-! ## Below the least exponent -/

/-- A text that is a core as a whole is its own core. -/
theorem IsCoreText.isCore {text : List Char} (h : IsCoreText text) : IsCore text [] text [] := by
  refine .of_front (List.append_nil text).symm h ?_
  intro other back htext _
  rw [htext, List.length_append]
  exact Nat.le_add_right _ _

section Hashes

variable (count : ℕ)

/-- A core of a point and places that are shown only if they are needed. -/
def hashes : List Char :=
  '.' :: List.replicate count '#'

theorem isCoreText_hashes (h : 0 < count) : IsCoreText (hashes count) := by
  obtain ⟨count, rfl⟩ := Nat.exists_eq_succ_of_ne_zero h.ne'
  refine ⟨?_, .inr ⟨rfl, '#', ?_, rfl⟩⟩
  · intro c hc
    obtain rfl | hc := List.mem_cons.mp hc
    · rfl
    · rw [List.eq_of_mem_replicate hc]
      rfl
  · rw [hashes, List.replicate_succ', ← List.cons_append, List.getLast?_concat]

theorem fractionPart_hashes : fractionPart (hashes count) = List.replicate count '#' := by
  rfl

theorem fractionPlaces_hashes : fractionPlaces (hashes count) = count := by
  rw [fractionPlaces, fractionPart_hashes, List.countP_replicate]
  rfl

theorem count_point_hashes : (hashes count).count '.' = 1 := by
  rw [hashes, List.count_cons_self, List.count_replicate]
  rfl

/-- Nothing is shown of zero. -/
theorem body_hashes_zero (places : ℕ) : (ofCore [] (hashes count) []).body places 0 = [] := by
  have hgrouped : (ofCore [] (hashes count) []).isGrouped = false := by
    rfl
  have hcount : (fractionPart (hashes count)).count '0' = 0 := by
    rw [fractionPart_hashes, List.count_replicate]
    rfl
  rw [body_eq, hgrouped, hcount, Nat.zero_div, Nat.zero_mod, fractionDigits_zero]
  rfl

end Hashes

/-- A unit of the last place is rounded to itself. -/
theorem rounded_unit (tie : Tie) (places : ℕ) :
    tie.rounded places (Decimal.worth false 1 (-(places : ℤ))) = 1 / 10 ^ places := by
  have hten : (10 : ℚ) ^ places ≠ 0 := by positivity
  have hone : (1 : ℚ) * 10 ^ (-(places : ℤ)) * 10 ^ places = (1 : ℕ) := by
    rw [one_mul, zpow_neg, zpow_natCast, inv_mul_cancel₀ hten, Nat.cast_one]
  rw [Decimal.rounded_worth, Nat.cast_one, hone, Tie.nearest_natCast, if_neg Bool.false_ne_true, one_mul,
    Nat.cast_one]

/-- No number but zero has an empty body. -/
theorem IsBody.size_of_nil {core whole fraction : List Char} {size : ℚ} (h : IsBody core size [] whole fraction) :
    size = 0 := by
  have hparts := h.without_commas
  rw [List.filter_nil, eq_comm, List.append_eq_nil_iff] at hparts
  obtain ⟨rfl, hpoint⟩ := hparts
  obtain rfl : fraction = [] := by
    by_contra hne
    rw [pointPart, if_neg hne] at hpoint
    cases hpoint
  rw [← h.value]
  simp [fractionValue]

/-- One unit of the first place below the least exponent is nothing, though the core has that place. -/
theorem shows_nothing_below_least_exponent :
    let core := hashes 1000027
    let number := Number.decimal (.finite false 1 (-(1000027 : ℕ)))
    let x : ℚ := Decimal.worth false 1 (-(1000027 : ℕ))
    let q := Tie.awayFromZero.rounded (fractionPlaces core) x
    number.IsWorth x ∧ StandardFormat.read? core = none ∧ IsCore core [] core [] ∧ core.count '.' ≤ 1 ∧
      number.format (String.ofList core) = .ok "" ∧
      ¬ ∃ body whole fraction, "".toList = [] ++ (if q < 0 then ['-'] else []) ++ body ++ [] ∧
        IsBody core |q| body whole fraction := by
  intro core number x q
  have hnumber : number.IsWorth x := .decimal false 1 0 (-(1000027 : ℕ)) (by decide)
  have hstandard : StandardFormat.read? core = none := rfl
  have hcoreText : IsCoreText core := isCoreText_hashes 1000027 (by decide)
  have hpoint : core.count '.' ≤ 1 := (count_point_hashes 1000027).le
  have hplaces : fractionPlaces core = 1000027 := fractionPlaces_hashes 1000027
  have hquantized : Decimal.quantized 1000027 (.finite false 1 (-(1000027 : ℕ))) =
      .ok (.finite false 0 (-(1000026 : ℕ))) := by
    rfl
  have hrounded : (ofCore [] core []).rounded number = .ok (.finite false 0 (-(1000026 : ℕ))) := by
    rw [rounded_of_no_percent rfl rfl, places_ofCore hcoreText hpoint, hplaces, hquantized]
  have happly : (ofCore [] core []).apply number = .ok [] := by
    have hdisplay := display_ofCore [] core [] false 0 1000026
    rw [body_hashes_zero] at hdisplay
    rw [apply_eq_ok_iff, hrounded]
    exact hdisplay
  have hshown : number.format (String.ofList core) = .ok "" := by
    rw [Number.format, String.toList_ofList, hstandard, read?_of_isCore hcoreText.isCore nofun]
    dsimp only
    rw [happly]
    rfl
  have hq : q = 1 / 10 ^ 1000027 := by
    change Tie.awayFromZero.rounded (fractionPlaces core) x = _
    rw [hplaces]
    exact rounded_unit .awayFromZero 1000027
  have hpos : 0 < q := by
    rw [hq]
    positivity
  refine ⟨hnumber, hstandard, hcoreText.isCore, hpoint, hshown, ?_⟩
  rintro ⟨body, whole, fraction, htext, hbody⟩
  rw [if_neg hpos.le.not_gt] at htext
  obtain rfl : body = [] := by
    simpa using htext
  exact hpos.ne' (abs_eq_zero.mp hbody.size_of_nil)

end Picture
end Numeric
end Stencil
