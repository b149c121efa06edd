import Stencil.Proofs.Numeric.Context
import Stencil.Proofs.Numeric.StandardForm

/-!
# Decimal numbers in the currency format

The format with commas rounds a decimal number once, to its places (`fixed_decimal`). The currency format first takes the
number without its sign, and this is a result of the context: it is rounded there, or refused if it is too large
(`formatCurrency_decimal`). What is shown can be read back (`digitsValue_filter_fixedText`), so the two formats show the
same digits exactly if the context changes nothing that can be seen in the places (`currency_agrees_iff`).
-/

namespace Stencil
namespace Numeric

namespace Decimal

/-! ## A number in its places -/

/-- The digits of the number `n / 10 ^ places`, with all of its places. -/
def placedFigure (places n : ℕ) : Figure :=
  pointedAt n (-(places : ℤ)) (digitCount n + -(places : ℤ)) none

/-- The digits of a number are cut by the point, or stand behind it with zeros in front. -/
theorem placedFigure_cases (places n : ℕ) :
    (∃ missing, placedFigure places n =
        ⟨['0'], Figure.pointed false (List.replicate missing '0' ++ digits n)⟩) ∨
      ∃ place, 0 < place ∧ place ≤ (digits n).length ∧
        placedFigure places n = ⟨(digits n).take place, Figure.pointed false ((digits n).drop place)⟩ := by
  have hlength : (digits n).length = digitCount n := rfl
  rw [placedFigure, pointedAt]
  simp only [List.append_nil]
  split
  · exact .inl ⟨_, rfl⟩
  · have hfits : ((digitCount n : ℤ) + -(places : ℤ)).toNat ≤ (digits n).length := by
      omega
    refine .inr ⟨_, by omega, hfits, ?_⟩
    rw [List.rightpad, List.length_take, Nat.min_eq_left hfits, Nat.sub_self, List.replicate_zero, List.append_nil]

section PlacedFigure

variable {places n : ℕ}

theorem isDigit_of_mem_whole_placedFigure {c : Char} (h : c ∈ (placedFigure places n).whole) : c.isDigit = true := by
  obtain ⟨missing, hfigure⟩ | ⟨place, -, -, hfigure⟩ := placedFigure_cases places n
  · rw [hfigure] at h
    rw [List.mem_singleton.mp h]
    rfl
  · rw [hfigure] at h
    exact isDigit_of_mem_digits (List.mem_of_mem_take h)

theorem whole_placedFigure_ne_nil : (placedFigure places n).whole ≠ [] := by
  obtain ⟨missing, hfigure⟩ | ⟨place, hpos, hfits, hfigure⟩ := placedFigure_cases places n
  · rw [hfigure]
    exact List.cons_ne_nil _ _
  · rw [hfigure, ← List.length_pos_iff, List.length_take]
    omega

/-- A number can be read from its digits before and behind the point. -/
theorem digitsValue_placedFigure :
    digitsValue ((placedFigure places n).whole ++ (placedFigure places n).rest.filter Char.isDigit) = n := by
  obtain ⟨missing, hfigure⟩ | ⟨place, -, -, hfigure⟩ := placedFigure_cases places n
  · have hfraction : ∀ c, c ∈ List.replicate missing '0' ++ digits n → c.isDigit = true := by
      intro c hc
      obtain hc | hc := List.mem_append.mp hc
      · rw [List.eq_of_mem_replicate hc]
        rfl
      · exact isDigit_of_mem_digits hc
    have hzeros : ['0'] ++ List.replicate missing '0' = List.replicate (missing + 1) '0' := rfl
    rw [hfigure]
    dsimp only
    rw [Layout.filter_isDigit_pointed hfraction, ← List.append_assoc, hzeros, digitsValue_append,
      digitsValue_replicate_zero, Nat.zero_mul, Nat.zero_add, digitsValue_digits]
  · have hfraction : ∀ c, c ∈ (digits n).drop place → c.isDigit = true := fun c hc =>
      isDigit_of_mem_digits (List.mem_of_mem_drop hc)
    rw [hfigure]
    dsimp only
    rw [Layout.filter_isDigit_pointed hfraction, List.take_append_drop, digitsValue_digits]

end PlacedFigure

/-- The number `± n / 10 ^ places` in a field that adds nothing. -/
def fixedText (commas negative : Bool) (places n : ℕ) : List Char :=
  (Layout.plain commas).number negative [] (placedFigure places n)

theorem digitsValue_filter_fixedText (commas negative : Bool) (places n : ℕ) :
    digitsValue ((fixedText commas negative places n).filter Char.isDigit) = n := by
  rw [fixedText, Layout.filter_isDigit_number_plain commas negative fun c => isDigit_of_mem_whole_placedFigure,
    digitsValue_placedFigure]

/-- No two numbers have the same text in the same places. -/
theorem withCurrencySign_fixedText_inj {commas negative : Bool} {places m n : ℕ} :
    StandardFormat.withCurrencySign (fixedText commas negative places m) =
      StandardFormat.withCurrencySign (fixedText commas negative places n) ↔ m = n := by
  refine ⟨fun h => ?_, fun h => by rw [h]⟩
  have hdigits := congrArg (fun text => digitsValue (text.filter Char.isDigit)) h
  rwa [StandardFormat.filter_isDigit_withCurrencySign, StandardFormat.filter_isDigit_withCurrencySign,
    digitsValue_filter_fixedText, digitsValue_filter_fixedText] at hdigits

/-- In the fixed form, zero keeps its places. -/
theorem magnitudeFigure_fixed (capitals : Bool) (places n : ℕ) :
    magnitudeFigure .fixed capitals (some places) n (-(places : ℤ)) = placedFigure places n := by
  have hexponent : (if n = 0 then min (-(places : ℤ)) 0 else -(places : ℤ)) = -(places : ℤ) := by
    rw [min_eq_left (by omega), ite_self]
  rw [magnitudeFigure]
  dsimp only
  rw [hexponent, if_neg (by decide)]
  rfl

/-- A decimal number is rounded once to fixed places. -/
theorem fixed_decimal (negative : Bool) (c : ℕ) (exponent : ℤ) (commas : Bool) (places : ℕ) :
    (Number.decimal (finite negative c exponent)).fixed commas places =
      .ok (fixedText commas negative places (Tie.toEven.nearest (c * 10 ^ exponent * 10 ^ places))) := by
  have hlayout : Spec.layout { commas, precision := some places, form := .fixed } = .plain commas := by
    cases commas <;> rfl
  have hmul : (c : ℚ) * 10 ^ exponent * 10 ^ places = c * 10 ^ (exponent - -(places : ℤ)) := by
    rw [sub_neg_eq_add, zpow_add₀ ten_ne_zero, zpow_natCast, mul_assoc]
  have hshown : (Number.decimal (finite negative c exponent)).fixed commas places =
      .ok (formatSpec { commas, precision := some places, form := .fixed } (finite negative c exponent)) := rfl
  rw [hshown, hmul, ← rescaled_eq, formatSpec, shown, toPlaces]
  dsimp only
  rw [magnitudeFigure_fixed, hlayout, losesSign, Bool.false_and, Bool.not_false, Bool.and_true, fixedText]

end Decimal

namespace StandardFormat

/-! ## The currency format -/

/-- In the currency format, the size of a decimal number in the context is rounded to places. -/
theorem formatCurrency_decimal (format : StandardFormat) {negative : Bool} {c : ℕ} (hsign : negative = true → c ≠ 0)
    (exponent : ℤ) :
    let size := Decimal.inContext (c * 10 ^ exponent)
    10 ^ (Decimal.maxExponent + 1) ≤ size ∧
        format.formatCurrency (.decimal (.finite negative c exponent)) = .error .decimalOverflow ∨
      size < 10 ^ (Decimal.maxExponent + 1) ∧
        format.formatCurrency (.decimal (.finite negative c exponent)) =
          .ok (withCurrencySign (Decimal.fixedText true negative format.places
            (Tie.toEven.nearest (size * 10 ^ format.places)))) := by
  intro size
  obtain ⟨hlarge, hsettled⟩ | ⟨hsmall, n, target, hsettled, hworth⟩ := Decimal.settled_cases false c exponent
  · refine .inl ⟨hlarge, ?_⟩
    rw [formatCurrency, Number.abs, Decimal.abs, hsettled]
    rfl
  · refine .inr ⟨hsmall, ?_⟩
    have hbelow : (negative && decide (c ≠ 0)) = negative := by
      cases negative with
      | false => rfl
      | true => rw [Bool.true_and, decide_eq_true (hsign rfl)]
    have hcurrency : format.formatCurrency (.decimal (.finite negative c exponent)) = (do
        let body ← (Number.decimal (.finite false n target)).fixed true format.places
        return (if negative && decide (c ≠ 0) then ['-'] else []) ++ currencySign :: body) := by
      rw [formatCurrency, Number.abs, Decimal.abs, hsettled]
      rfl
    have hmarked := Layout.withCurrencySign_number_plain true negative
      (Decimal.placedFigure format.places (Tie.toEven.nearest (size * 10 ^ format.places)))
      Decimal.whole_placedFigure_ne_nil fun c => Decimal.isDigit_of_mem_whole_placedFigure
    rw [hcurrency, Decimal.fixed_decimal, hworth, hbelow, Decimal.fixedText, Decimal.fixedText, hmarked]
    rfl

end StandardFormat

open StandardFormat

namespace Decimal

section Formats

variable {negative : Bool} {c : ℕ} (exponent : ℤ) {precision : Option ℕ} (hprecision : ∀ p, p ∈ precision → p < 100)

include hprecision

/-- The format with commas refuses no decimal number. -/
theorem format_grouped :
    (Number.decimal (finite negative c exponent)).format (written 'N' precision) =
      .ok (String.ofList (fixedText true negative (precision.getD 2)
        (Tie.toEven.nearest (c * 10 ^ exponent * 10 ^ precision.getD 2)))) := by
  rw [format_written _ (rfl : StandardLetter.ofCapital? 'N'.toUpper = some .grouped) hprecision]
  exact congrArg (String.ofList <$> ·) (fixed_decimal negative c exponent true _)

/-- The currency format refuses what is too large in the context. -/
theorem format_currency_cases (hsign : negative = true → c ≠ 0) :
    let shown := (Number.decimal (finite negative c exponent)).format (written 'C' precision)
    let size := inContext (c * 10 ^ exponent)
    10 ^ (maxExponent + 1) ≤ size ∧ shown = .error .decimalOverflow ∨
      size < 10 ^ (maxExponent + 1) ∧
        shown = .ok (String.ofList (withCurrencySign (fixedText true negative (precision.getD 2)
          (Tie.toEven.nearest (size * 10 ^ precision.getD 2))))) := by
  intro shown size
  have hshown : shown = String.ofList <$>
      (⟨.currency, 'C', precision⟩ : StandardFormat).formatCurrency (.decimal (finite negative c exponent)) :=
    format_written _ (rfl : StandardLetter.ofCapital? 'C'.toUpper = some .currency) hprecision
  rw [hshown, map_ofList_eq_ok_iff, map_ofList_eq_error_iff]
  exact formatCurrency_decimal ⟨.currency, 'C', precision⟩ hsign exponent

/-- Both formats show the same, but for the currency sign, if the context changes nothing that is seen in the places. -/
theorem format_currency_eq_iff (hsign : negative = true → c ≠ 0) :
    let number := Number.decimal (finite negative c exponent)
    let size : ℚ := c * 10 ^ exponent
    let shown := Tie.toEven.rounded (precision.getD 2)
    number.format (written 'C' precision) = markCurrency <$> number.format (written 'N' precision) ↔
      inContext size < 10 ^ (maxExponent + 1) ∧ shown (inContext size) = shown size := by
  intro number size shown
  have hmarked : markCurrency <$> number.format (written 'N' precision) =
      .ok (String.ofList (withCurrencySign (fixedText true negative (precision.getD 2)
        (Tie.toEven.nearest (size * 10 ^ precision.getD 2))))) := by
    rw [format_grouped exponent hprecision]
    exact map_markCurrency (.ok _)
  rw [hmarked, Tie.rounded_eq_rounded_iff (inContext_nonneg size) (by positivity)]
  obtain ⟨hlarge, hrefused⟩ | ⟨hsmall, htext⟩ := format_currency_cases exponent hprecision hsign
  · rw [hrefused]
    exact iff_of_false nofun fun h => absurd h.1 (not_lt.mpr hlarge)
  · rw [htext, Except.ok.injEq, String.ofList_inj, withCurrencySign_fixedText_inj]
    exact (and_iff_right hsmall).symm

end Formats

/-- A finite decimal number that is no negative zero, in the currency format and in the one with commas, which refuses none.
Both show the same, but for the currency sign, exactly if the size of the number in the context is not too large, and is
rounded to the same places as the size itself. Only a size that is too large there is refused. So both show the same for
every number with at most 28 significant digits, none of them below the least exponent, that is not too large. -/
theorem currency_agrees_iff {negative : Bool} {c : ℕ} (hsign : negative = true → c ≠ 0) (exponent : ℤ)
    {precision : Option ℕ} (hprecision : ∀ p, p ∈ precision → p < 100) :
    let number := Number.decimal (.finite negative c exponent)
    let size := |worth negative c exponent|
    let shown := Tie.toEven.rounded (precision.getD 2)
    let grouped := number.format (written 'N' precision)
    let currency := number.format (written 'C' precision)
    (∃ text, grouped = .ok text) ∧
      (currency = markCurrency <$> grouped ↔
        inContext size < 10 ^ (maxExponent + 1) ∧ shown (inContext size) = shown size) ∧
      (currency = .error .decimalOverflow ↔ 10 ^ (maxExponent + 1) ≤ inContext size) ∧
      (∀ (m : ℕ) (j : ℤ), m < 10 ^ 28 → leastExponent ≤ j → size = m * 10 ^ j → size < 10 ^ (maxExponent + 1) →
        currency = markCurrency <$> grouped) := by
  intro number size shown grouped currency
  have hsize : size = c * 10 ^ exponent := abs_worth negative c exponent
  have hagrees := format_currency_eq_iff exponent hprecision hsign
  dsimp only at hagrees
  rw [← hsize] at hagrees
  refine ⟨⟨_, format_grouped exponent hprecision⟩, hagrees, ?_, ?_⟩
  · rw [hsize]
    obtain ⟨hlarge, hrefused⟩ | ⟨hsmall, htext⟩ := format_currency_cases exponent hprecision hsign
    · exact iff_of_true hrefused hlarge
    · exact iff_of_false (fun hrefused => nomatch htext.symm.trans hrefused) (not_le.mpr hsmall)
  · intro m j hm hj hexact hfits
    have hkept : inContext size = size := by
      rw [hexact, inContext_eq_self hm hj]
    refine hagrees.mpr ?_
    rw [hkept]
    exact ⟨hfits, rfl⟩

/-- Both formats round a negative number to an even digit, which carries into the thousands. -/
theorem currency_agrees_iff_of_carry :
    let number := Number.decimal (.finite true 999995 (-3))
    let size := |worth true 999995 (-3)|
    let shown := Tie.toEven.rounded 2
    let grouped := number.format (written 'N' (some 2))
    let currency := number.format (written 'C' (some 2))
    (true = true → 999995 ≠ 0) ∧ (∀ p, p ∈ some 2 → p < 100) ∧ (∃ text, grouped = .ok text) ∧
      grouped = .ok "-1,000.00" ∧ currency = .ok "-¤1,000.00" ∧ currency = markCurrency <$> grouped ∧
      inContext size < 10 ^ (maxExponent + 1) ∧ shown (inContext size) = shown size ∧
      currency ≠ .error .decimalOverflow := by
  intro number size shown grouped currency
  have hsign : true = true → 999995 ≠ 0 := by
    decide
  have hprecision : ∀ p, p ∈ some 2 → p < 100 := by
    decide
  obtain ⟨htext, hagrees, hrefused, hexact⟩ := currency_agrees_iff hsign (-3) hprecision
  have hsmall : size < 10 ^ (maxExponent + 1) := by
    change |worth true 999995 (-3)| < _
    rw [abs_worth, ← leading_lt_iff (by decide)]
    decide
  have hequal := hexact 999995 (-3) (by decide) (by decide) (abs_worth true 999995 (-3)) hsmall
  obtain ⟨hfits, hsame⟩ := hagrees.mp hequal
  refine ⟨hsign, hprecision, htext, ?_, ?_, hequal, hfits, hsame, mt hrefused.mp (not_le.mpr hfits)⟩
  · with_unfolding_all rfl
  · with_unfolding_all rfl

/-- A number with 29 digits is shown with all of them only in the format with commas, one that is just above a half is
rounded down in the currency format, and one beyond the context is refused there. -/
theorem currency_differs :
    let long := Number.decimal (.finite false 12345678901234567890123456789 0)
    let half := Number.decimal (.finite false (5 * 10 ^ 28 + 1) (-29))
    let huge := Number.decimal (.finite false 1 1000000)
    long.format (written 'N' (some 0)) = .ok "12,345,678,901,234,567,890,123,456,789" ∧
      long.format (written 'C' (some 0)) = .ok "¤12,345,678,901,234,567,890,123,456,790" ∧
      long.format (written 'C' (some 0)) ≠ markCurrency <$> long.format (written 'N' (some 0)) ∧
      half.format (written 'N' (some 0)) = .ok "1" ∧ half.format (written 'C' (some 0)) = .ok "¤0" ∧
      huge.format (written 'C' (some 0)) = .error .decimalOverflow := by
  refine ⟨?_, ?_, ?_, ?_, ?_, ?_⟩ <;> with_unfolding_all decide

end Decimal

end Numeric
end Stencil
