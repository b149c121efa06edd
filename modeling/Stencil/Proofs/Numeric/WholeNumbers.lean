import Stencil.Proofs.Numeric.NearestBinary
import Stencil.Proofs.Numeric.StandardForm

/-!
# Whole numbers in the formats with places

The formats with places take a whole number as the nearest binary number, and show that exactly, with zeros in its places
(`fixed_integer_cases`). So they show a whole number exactly if it is a binary number; all others are shown with other digits,
or refused if they are rounded up beyond the binary numbers (`shows_whole_number_iff`).
-/

namespace Stencil
namespace Numeric

/-! ## Binary numbers that are whole numbers -/

/-- The number `n`, with places that are all zero. -/
theorem fixed_mul_pow (n places : ℕ) :
    Figure.fixed false places (n * 10 ^ places) =
      ⟨digits n, Figure.pointed false (List.replicate places '0')⟩ := by
  have hten : 0 < 10 ^ places := Nat.pow_pos (by decide)
  rw [Figure.fixed, Nat.mul_div_cancel _ hten, Nat.mul_mod_left, placed_zero]

/-- A whole number in a field that adds nothing, with zeros in its places. -/
def wholeText (commas negative : Bool) (places n : ℕ) : List Char :=
  (Layout.plain commas).number negative [] ⟨digits n, Figure.pointed false (List.replicate places '0')⟩

theorem Binary64.IsWhole.render_fixed {x : Binary64} {negative : Bool} {n : ℕ} (h : x.IsWhole negative n)
    (commas : Bool) (places : ℕ) :
    x.render (.plain commas) (.fixed places) false = wholeText commas negative places n := by
  obtain ⟨significand, exponent, rfl, hquotient⟩ := h
  have hden : 0 < (quotient significand exponent).2 := Nat.two_pow_pos _
  have hrounded : roundedQuotient .toEven ((quotient significand exponent).1 * 10 ^ places)
      (quotient significand exponent).2 = n * 10 ^ places := by
    rw [hquotient, Nat.mul_right_comm]
    exact roundedQuotient_mul _ _ hden
  have hfigure : (finite negative significand exponent).figure (.fixed places) false false =
      Figure.fixed false places (n * 10 ^ places) := by
    rw [figure, magnitudeFigure]
    exact congrArg (Figure.fixed false places) hrounded
  rw [render, hfigure, fixed_mul_pow]
  rfl

/-- A whole number can be read from its digits, whatever is put between these, and the zeros in its places. -/
theorem digitsValue_filter_shown (negative : Bool) {whole : List Char} {n : ℕ}
    (h : whole.filter Char.isDigit = digits n) (places : ℕ) :
    digitsValue (((if negative then ['-'] else []) ++
      (whole ++ Figure.pointed false (List.replicate places '0'))).filter Char.isDigit) = n * 10 ^ places := by
  have hzeros : ∀ c, c ∈ List.replicate places '0' → c.isDigit = true := by
    intro c hc
    rw [List.eq_of_mem_replicate hc]
    rfl
  rw [List.filter_append, List.filter_append, Layout.filter_isDigit_sign, h, Layout.filter_isDigit_pointed hzeros,
    List.nil_append, digitsValue_append, digitsValue_replicate_zero, digitsValue_digits, List.length_replicate, Nat.add_zero]

theorem digitsValue_filter_wholeText (commas negative : Bool) (places n : ℕ) :
    digitsValue ((wholeText commas negative places n).filter Char.isDigit) = n * 10 ^ places := by
  rw [wholeText, Layout.number_plain]
  exact digitsValue_filter_shown negative (Layout.filter_isDigit_whole commas fun c => isDigit_of_mem_digits) places

/-! ## Whole numbers -/

/-- The formats with places show the nearest binary number, unless there is none. -/
theorem fixed_integer_cases (n : ℤ) (commas : Bool) (places : ℕ) :
    binaryLimit ≤ nearestBinary n.natAbs ∧ (Number.integer n).fixed commas places = .error .tooLargeForBinary ∨
      nearestBinary n.natAbs < binaryLimit ∧ (Number.integer n).fixed commas places =
        .ok (wholeText commas (n < 0) places (nearestBinary n.natAbs)) := by
  rw [Number.fixed, Number.styled, toBinary]
  obtain ⟨hlarge, hnone⟩ | ⟨hsmall, x, hx, hwhole⟩ := Binary64.ofInt?_cases n
  · rw [hnone]
    exact .inl ⟨hlarge, rfl⟩
  · rw [hx]
    exact .inr ⟨hsmall, congrArg Except.ok (hwhole.render_fixed commas places)⟩

theorem isBinary_iff {n : ℕ} : IsBinary n ↔ nearestBinary n < binaryLimit ∧ nearestBinary n = n := by
  rw [IsBinary, ← nearestBinary_eq_iff]
  refine and_congr_left fun h => ?_
  rw [h]

/-- A whole number is refused from the middle between the largest binary number and the limit on. -/
theorem fixed_integer_eq_error_iff (n : ℤ) (commas : Bool) (places : ℕ) :
    (Number.integer n).fixed commas places = .error .tooLargeForBinary ↔
      binaryLimit - 2 ^ (970 : ℕ) ≤ n.natAbs := by
  rw [binaryLimit_eq 54 970 rfl, ← le_nearestBinary_iff, ← binaryLimit_eq 54 970 rfl]
  obtain ⟨hlarge, hfixed⟩ | ⟨hsmall, hfixed⟩ := fixed_integer_cases n commas places
  · rw [hfixed]
    exact iff_of_true rfl hlarge
  · rw [hfixed]
    exact iff_of_false nofun (not_le.mpr hsmall)

/-- A text from which a whole number can be read is shown for no other number. -/
theorem isBinary_of_fixed_eq_ok {n : ℤ} {commas : Bool} {places : ℕ} {text : List Char}
    (h : (Number.integer n).fixed commas places = .ok text)
    (htext : digitsValue (text.filter Char.isDigit) = n.natAbs * 10 ^ places) : IsBinary n.natAbs := by
  obtain ⟨_, hfixed⟩ | ⟨hsmall, hfixed⟩ := fixed_integer_cases n commas places
  · rw [hfixed] at h
    cases h
  · rw [hfixed] at h
    cases h
    rw [digitsValue_filter_wholeText] at htext
    exact isBinary_iff.mpr ⟨hsmall, Nat.eq_of_mul_eq_mul_right (Nat.pow_pos (by decide)) htext⟩

theorem fixed_of_isBinary {n : ℤ} (h : IsBinary n.natAbs) (commas : Bool) (places : ℕ) :
    (Number.integer n).fixed commas places = .ok (wholeText commas (n < 0) places n.natAbs) := by
  obtain ⟨hsmall, hexact⟩ := isBinary_iff.mp h
  obtain ⟨hlarge, _⟩ | ⟨_, hfixed⟩ := fixed_integer_cases n commas places
  · exact absurd hsmall (not_lt.mpr hlarge)
  · rw [hfixed, hexact]

namespace StandardFormat

/-- In the currency format, a whole number gets the sign of no currency in particular, and is shown as with commas. -/
theorem formatCurrency_integer (format : StandardFormat) (n : ℤ) :
    format.formatCurrency (.integer n) = withCurrencySign <$> (Number.integer n).fixed true format.places := by
  have hsize : (((n.natAbs : ℕ) : ℤ) < 0) = False := eq_false (by omega)
  have hcurrency : format.formatCurrency (.integer n) = (do
      let body ← (Number.integer (n.natAbs : ℕ)).fixed true format.places
      return (if decide (n < 0) = true then ['-'] else []) ++ currencySign :: body) := by
    rfl
  rw [hcurrency]
  obtain ⟨hlarge, hfixed⟩ | ⟨hsmall, hfixed⟩ := fixed_integer_cases n true format.places
  · obtain ⟨_, hbody⟩ | ⟨hsmall, _⟩ := fixed_integer_cases (n.natAbs : ℕ) true format.places
    · rw [hfixed, hbody]
      rfl
    · rw [Int.natAbs_natCast] at hsmall
      exact absurd hsmall (not_lt.mpr hlarge)
  · obtain ⟨hlarge, _⟩ | ⟨_, hbody⟩ := fixed_integer_cases (n.natAbs : ℕ) true format.places
    · rw [Int.natAbs_natCast] at hlarge
      exact absurd hsmall (not_lt.mpr hlarge)
    · have hne : digits (nearestBinary n.natAbs) ≠ [] := Nat.toDigits_ne_nil
      have hmarked := Layout.withCurrencySign_number_plain true (n < 0)
        ⟨_, Figure.pointed false (List.replicate format.places '0')⟩ hne fun c => isDigit_of_mem_digits
      rw [hfixed, hbody, Int.natAbs_natCast, decide_eq_false (hsize ▸ not_false)]
      exact congrArg Except.ok hmarked.symm

end StandardFormat

open StandardFormat

/-- A whole number in the formats with places. It is shown with all its digits, behind its sign and with zeros in all of its
places, exactly if it is a binary number; in the currency format, it is shown as with commas, with the currency sign behind
the minus sign. It is refused from the middle between the largest binary number and the limit on. -/
theorem shows_whole_number_iff (n : ℤ) {places : ℕ} (h : places < 100) :
    let shown := fun letter => (Number.integer n).format (written letter (some places))
    let zeros := Figure.pointed false (List.replicate places '0')
    (shown 'F' = .ok (String.ofList (signedDigits n ++ zeros)) ↔ IsBinary n.natAbs) ∧
      ((∃ whole, IsGrouped 3 (digits n.natAbs) whole ∧
          shown 'N' = .ok (String.ofList ((if n < 0 then ['-'] else []) ++ whole ++ zeros))) ↔ IsBinary n.natAbs) ∧
      shown 'C' = markCurrency <$> shown 'N' ∧
      (shown 'F' = .error .tooLargeForBinary ↔ binaryLimit - 2 ^ (970 : ℕ) ≤ n.natAbs) ∧
      (shown 'N' = .error .tooLargeForBinary ↔ binaryLimit - 2 ^ (970 : ℕ) ≤ n.natAbs) := by
  intro shown zeros
  have hprecision : ∀ p, p ∈ some places → p < 100 := by
    intro p hp
    cases hp
    exact h
  have hF : shown 'F' = String.ofList <$> (Number.integer n).fixed false places :=
    format_written _ (rfl : StandardLetter.ofCapital? 'F'.toUpper = some .fixed) hprecision
  have hN : shown 'N' = String.ofList <$> (Number.integer n).fixed true places :=
    format_written _ (rfl : StandardLetter.ofCapital? 'N'.toUpper = some .grouped) hprecision
  have hC : shown 'C' = String.ofList <$> withCurrencySign <$> (Number.integer n).fixed true places :=
    (format_written _ (rfl : StandardLetter.ofCapital? 'C'.toUpper = some .currency) hprecision).trans
      (congrArg (String.ofList <$> ·) (formatCurrency_integer _ n))
  rw [hF, hN, hC]
  refine ⟨?_, ?_, (map_markCurrency _).symm, ?_, ?_⟩
  · have hexact : signedDigits n ++ zeros = wholeText false (n < 0) places n.natAbs := by
      rw [wholeText, Layout.number_plain, signedDigits]
      simp [zeros]
    rw [map_ofList_eq_ok_iff, hexact]
    refine ⟨fun hshown => isBinary_of_fixed_eq_ok hshown (digitsValue_filter_wholeText _ _ _ _), ?_⟩
    exact fun hbinary => fixed_of_isBinary hbinary false places
  · constructor
    · rintro ⟨whole, hwhole, hshown⟩
      rw [map_ofList_eq_ok_iff] at hshown
      refine isBinary_of_fixed_eq_ok hshown ?_
      have hvalue := digitsValue_filter_shown (n < 0) (hwhole.filter_isDigit fun c => isDigit_of_mem_digits) places
      simp only [decide_eq_true_eq] at hvalue
      rwa [List.append_assoc]
    · intro hbinary
      refine ⟨thousands (digits n.natAbs), isGrouped_thousands _, ?_⟩
      rw [map_ofList_eq_ok_iff, fixed_of_isBinary hbinary, wholeText, Layout.number_plain]
      simp [zeros]
  · rw [map_ofList_eq_error_iff, fixed_integer_eq_error_iff]
  · rw [map_ofList_eq_error_iff, fixed_integer_eq_error_iff]

/-- The least number that needs 64 bits is a power of two, which is shown with all its digits and refused nowhere. -/
theorem shows_whole_number_iff_of_power_of_two :
    let n : ℤ := -9223372036854775808
    let shown := fun letter => (Number.integer n).format (written letter (some 2))
    2 < 100 ∧ IsBinary n.natAbs ∧ shown 'F' = .ok "-9223372036854775808.00" ∧
      shown 'F' = .ok (String.ofList (signedDigits n ++ Figure.pointed false (List.replicate 2 '0'))) ∧
      (∃ whole, IsGrouped 3 (digits n.natAbs) whole ∧
        shown 'N' = .ok (String.ofList ((if n < 0 then ['-'] else []) ++ whole ++
          Figure.pointed false (List.replicate 2 '0')))) ∧
      shown 'C' = markCurrency <$> shown 'N' ∧ shown 'C' = .ok "-¤9,223,372,036,854,775,808.00" ∧
      shown 'F' ≠ .error .tooLargeForBinary ∧ shown 'N' ≠ .error .tooLargeForBinary := by
  intro n shown
  have hplaces : 2 < 100 := by
    decide
  have hbinary : IsBinary n.natAbs := by
    rw [isBinary_iff]
    decide +kernel
  have hsmall : ¬ binaryLimit - 2 ^ (970 : ℕ) ≤ n.natAbs := by
    decide +kernel
  obtain ⟨hfixed, hgrouped, hcurrency, hfixedRefused, hgroupedRefused⟩ := shows_whole_number_iff n hplaces
  refine ⟨hplaces, hbinary, ?_, hfixed.mpr hbinary, hgrouped.mpr hbinary, hcurrency, ?_, mt hfixedRefused.mp hsmall,
    mt hgroupedRefused.mp hsmall⟩
  · with_unfolding_all decide
  · with_unfolding_all decide

/-- A number with 54 significant bits is shown as its neighbour, though it has a text of its own without places, and the first
power of two beyond the binary numbers is refused. -/
theorem shows_neighbour_of_whole_number :
    let number := Number.integer (2 ^ 53 + 1)
    number.format (written 'F' (some 0)) = .ok "9007199254740992" ∧
      number.format (written 'N' (some 0)) = .ok "9,007,199,254,740,992" ∧
      number.format (written 'D' none) = .ok "9007199254740993" ∧
      signedDigits (2 ^ 53 + 1) ++ Figure.pointed false (List.replicate 0 '0') = "9007199254740993".toList ∧
      (Number.integer (2 ^ 1024)).format (written 'F' (some 0)) = .error .tooLargeForBinary := by
  refine ⟨?_, ?_, ?_, ?_, ?_⟩ <;> decide +kernel

end Numeric
end Stencil
