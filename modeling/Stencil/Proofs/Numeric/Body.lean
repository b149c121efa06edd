import Stencil.Numeric.Picture
import Stencil.Proofs.Numeric.Core
import Stencil.Proofs.Numeric.Digits
import Stencil.Proofs.Numeric.Grouping
import Mathlib.Tactic.Positivity

/-!
# Bodies of pictures

The body of a picture stands in the places of its core (`Picture.IsBody`): it writes the number that is shown, its digits
fill the places that are always shown and have no more zeros than these at either end, and its commas cut the whole part
into thousands if the core asks for them. What is shown of a number is such a body (`isBody_body`).
-/

namespace Stencil
namespace Numeric
namespace Picture

/-! ## The parts of a core -/

/-- What a core has before its point. -/
def wholePart (core : List Char) : List Char :=
  core.takeWhile (· ≠ '.')

/-- What a core has behind its point. -/
def fractionPart (core : List Char) : List Char :=
  (core.dropWhile (· ≠ '.')).drop 1

/-- How many places for digits a core has behind its point. -/
def fractionPlaces (core : List Char) : ℕ :=
  (fractionPart core).countP isPlace

/-- A core asks for commas if one stands before a place of its whole part. -/
def AsksForCommas (core : List Char) : Prop :=
  ∃ front back, wholePart core = front ++ ',' :: back ∧ ∃ c, c ∈ back ∧ isPlace c = true

/-- The point and the digits behind it; without digits there is no point. -/
def pointPart (fraction : List Char) : List Char :=
  if fraction = [] then [] else '.' :: fraction

/-- A text that shows a number: digits before the point, with commas or without, and digits behind it. -/
structure IsNumeral (size : ℚ) (body whole fraction : List Char) : Prop where
  isDigit : ∀ c, c ∈ whole ++ fraction → c.isDigit = true
  value : digitsValue whole + fractionValue fraction = size
  without_commas : body.filter (· ≠ ',') = whole ++ pointPart fraction

/-- A text that shows a number in the places of a core: digits before the point, which may be grouped, and digits behind it,
each of them filled up to the places that are always shown, and no more zeros than these at either end. -/
structure IsBody (core : List Char) (size : ℚ) (body whole fraction : List Char) : Prop where
  isDigit : ∀ c, c ∈ whole ++ fraction → c.isDigit = true
  value : digitsValue whole + fractionValue fraction = size
  least_whole : (wholePart core).count '0' ≤ whole.length
  no_leading_zero : (wholePart core).count '0' < whole.length → whole.head? ≠ some '0'
  least_fraction : (fractionPart core).count '0' ≤ fraction.length
  most_fraction : fraction.length ≤ fractionPlaces core
  no_trailing_zero : (fractionPart core).count '0' < fraction.length → fraction.getLast? ≠ some '0'
  without_commas : body.filter (· ≠ ',') = whole ++ pointPart fraction
  grouped : AsksForCommas core → ∃ groups, IsGrouping 3 whole groups ∧
    body = [','].intercalate groups ++ pointPart fraction
  ungrouped : ¬ AsksForCommas core → body = whole ++ pointPart fraction

/-- The picture of a text that is cut at its core. -/
def ofCore (before core after : List Char) : Picture :=
  ⟨before, wholePart core, (fractionPart core).filter (· ≠ ','), after⟩

theorem not_isDigitSign_of_any {text : List Char} (h : text.any Text.isDigitSign = false) :
    ∀ c, c ∈ text → Text.isDigitSign c = false := by
  simpa using h

/-- A text without digits around its core is read as the picture of this core. -/
theorem read?_of_isCore {text before core after : List Char} (hcore : IsCore text before core after)
    (hsides : ∀ c, c ∈ before ++ after → Text.isDigitSign c = false) :
    read? text = some (ofCore before core after) := by
  have hnone : ¬ (before.any Text.isDigitSign || after.any Text.isDigitSign) = true := by
    rw [Bool.not_eq_true, ← List.any_append, List.any_eq_false]
    intro c hc
    rw [hsides c hc]
    exact Bool.false_ne_true
  rw [read?, splitCore?_eq_some_iff.mpr hcore]
  dsimp only
  rw [if_neg hnone, List.span_eq_takeWhile_dropWhile]
  rfl

/-! ## The body -/

section Body

variable {before core after : List Char}

theorem isPlace_or_comma {c : Char} (h : continuesCore c = true) (hpoint : c ≠ '.') : isPlace c = true ∨ c = ',' := by
  rw [continuesCore, Bool.or_eq_true, Bool.or_eq_true, decide_eq_true_eq, decide_eq_true_eq] at h
  tauto

/-- Before its point, a core has only places and commas. -/
theorem isPlace_or_comma_of_mem_wholePart (hcore : IsCoreText core) {c : Char} (h : c ∈ wholePart core) :
    isPlace c = true ∨ c = ',' := by
  refine isPlace_or_comma (hcore.continues c ((List.takeWhile_prefix _).subset h)) ?_
  simpa using List.mem_takeWhile_imp h

/-- Thousands are grouped if a comma stands before a place. -/
theorem isGrouped_iff (hcore : IsCoreText core) : (ofCore before core after).isGrouped = true ↔ AsksForCommas core := by
  change (dropTrailing ',' (wholePart core)).contains ',' = true ↔ _
  rw [List.contains_iff_mem, mem_dropTrailing_iff]
  refine exists_congr fun front => exists_congr fun back => and_congr_right fun hcut => ?_
  refine exists_congr fun c => and_congr_right fun hc => ?_
  have hmem : c ∈ wholePart core := by
    rw [hcut]
    exact List.mem_append_right _ (List.mem_cons_of_mem _ hc)
  constructor
  · exact (isPlace_or_comma_of_mem_wholePart hcore hmem).resolve_right
  · rintro hplace rfl
    cases hplace

/-- The places that are always shown are places. -/
theorem count_zero_le_fractionPlaces (core : List Char) : (fractionPart core).count '0' ≤ fractionPlaces core := by
  refine List.countP_mono_left ?_
  intro c _ hc
  rw [beq_iff_eq.mp hc]
  rfl

theorem count_point_fractionPart (core : List Char) : (fractionPart core).count '.' = core.count '.' - 1 := by
  have hwhole : (core.takeWhile (· ≠ '.')).count '.' = 0 := by
    rw [List.count_eq_zero]
    intro hmem
    simpa using List.mem_takeWhile_imp hmem
  have hcount : core.count '.' = (core.dropWhile (· ≠ '.')).count '.' := by
    conv_lhs => rw [← List.takeWhile_append_dropWhile (p := (· ≠ '.')) (l := core)]
    rw [List.count_append, hwhole, Nat.zero_add]
  rw [hcount, fractionPart]
  cases hdrop : core.dropWhile (· ≠ '.') with
  | nil => rfl
  | cons first rest =>
      obtain rfl : first = '.' := by
        simpa using Text.head?_dropWhile_eq_some (congrArg List.head? hdrop)
      rw [List.count_cons_self, Nat.add_sub_cancel]
      rfl

/-- Without its commas, a part of a core has places and points. -/
theorem length_filter_ne_comma {part : List Char} (h : ∀ c, c ∈ part → continuesCore c = true) :
    (part.filter (· ≠ ',')).length = part.countP isPlace + part.count '.' := by
  induction part with
  | nil => rfl
  | cons c part ih =>
      rw [List.forall_mem_cons] at h
      have hrest := ih h.2
      by_cases hpoint : c = '.'
      · subst hpoint
        rw [List.filter_cons_of_pos (by decide), List.length_cons, hrest, List.countP_cons_of_neg (by decide),
          List.count_cons_self]
        omega
      · rw [List.count_cons_of_ne hpoint]
        obtain hplace | rfl := isPlace_or_comma h.1 hpoint
        · have hcomma : c ≠ ',' := by
            rintro rfl
            cases hplace
          rw [List.filter_cons_of_pos (by simpa using hcomma), List.length_cons, hrest, List.countP_cons_of_pos hplace]
          omega
        · rw [List.filter_cons_of_neg (by decide), hrest, List.countP_cons_of_neg (by decide)]

/-- A picture has a place for each place behind the first point, and for each further point. -/
theorem places_ofCore_eq (hcore : IsCoreText core) :
    (ofCore before core after).places = fractionPlaces core + (core.count '.' - 1) := by
  have hpart : ∀ c, c ∈ fractionPart core → continuesCore c = true := fun c hc =>
    hcore.continues c ((List.dropWhile_suffix _).subset (List.mem_of_mem_drop hc))
  rw [← count_point_fractionPart, fractionPlaces, ← length_filter_ne_comma hpart]
  rfl

theorem places_ofCore (hcore : IsCoreText core) (hpoint : core.count '.' ≤ 1) :
    (ofCore before core after).places = fractionPlaces core := by
  rw [places_ofCore_eq hcore]
  omega

theorem leastFraction_ofCore (before core after : List Char) :
    (ofCore before core after).leastFraction = (fractionPart core).count '0' :=
  List.count_filter rfl

theorem pointed_eq_pointPart (fraction : List Char) : Figure.pointed false fraction = pointPart fraction := by
  simp [Figure.pointed, pointPart]

theorem body_eq (before core after : List Char) (places n : ℕ) :
    (ofCore before core after).body places n =
      (if (ofCore before core after).isGrouped then
          thousands (wholeDigits ((wholePart core).count '0') (n / 10 ^ places))
        else wholeDigits ((wholePart core).count '0') (n / 10 ^ places)) ++
      pointPart (fractionDigits ((fractionPart core).count '0') places (n % 10 ^ places)) := by
  rw [body, pointed_eq_pointPart, ← leastFraction_ofCore before core after]
  rfl

theorem filter_of_digits {text : List Char} (h : ∀ c, c ∈ text → c.isDigit = true) :
    text.filter (· ≠ ',') = text := by
  rw [List.filter_eq_self]
  intro c hc
  rw [decide_eq_true_eq]
  rintro rfl
  cases h _ hc

/-- The digits of a number that is given in units of its last decimal place. -/
theorem isNumeral_body (before core after : List Char) (places n : ℕ) :
    IsNumeral (n / 10 ^ places) ((ofCore before core after).body places n)
      (wholeDigits ((wholePart core).count '0') (n / 10 ^ places))
      (fractionDigits ((fractionPart core).count '0') places (n % 10 ^ places)) := by
  have hpart : n % 10 ^ places < 10 ^ places := Nat.mod_lt _ (Nat.pow_pos (by decide))
  have hwhole {c : Char} (h : c ∈ wholeDigits ((wholePart core).count '0') (n / 10 ^ places)) : c.isDigit = true :=
    isDigit_of_mem_wholeDigits _ _ h
  have hfraction {c : Char}
      (h : c ∈ fractionDigits ((fractionPart core).count '0') places (n % 10 ^ places)) : c.isDigit = true :=
    isDigit_of_mem_fractionDigits h
  refine ⟨?_, ?_, ?_⟩
  · intro c hc
    exact (List.mem_append.mp hc).elim hwhole hfraction
  · have hten : (10 : ℚ) ^ places ≠ 0 := by positivity
    have hsum : ((10 ^ places * (n / 10 ^ places) + n % 10 ^ places : ℕ) : ℚ) = n := by
      rw [Nat.div_add_mod]
    rw [digitsValue_wholeDigits, fractionValue_fractionDigits hpart, eq_div_iff hten, add_mul,
      div_mul_cancel₀ _ hten, ← hsum]
    push_cast
    ring
  · have hpoint {fraction : List Char} (h : ∀ c, c ∈ fraction → c.isDigit = true) :
        (pointPart fraction).filter (· ≠ ',') = pointPart fraction := by
      rw [pointPart]
      split
      · rfl
      · exact congrArg ('.' :: ·) (filter_of_digits h)
    rw [body_eq, List.filter_append, hpoint fun c => hfraction]
    congr 1
    split
    · refine filter_grouped (by decide) ?_
      intro hcomma
      cases hwhole hcomma
    · exact filter_of_digits fun c => hwhole

/-- The digits of a number that is given in units of its last decimal place, in the places of a core. -/
theorem isBody_body (before after : List Char) (hcore : IsCoreText core) {places : ℕ}
    (hplaces : places ≤ fractionPlaces core) (n : ℕ) :
    IsBody core (n / 10 ^ places) ((ofCore before core after).body places n)
      (wholeDigits ((wholePart core).count '0') (n / 10 ^ places))
      (fractionDigits ((fractionPart core).count '0') places (n % 10 ^ places)) := by
  have hpart : n % 10 ^ places < 10 ^ places := Nat.mod_lt _ (Nat.pow_pos (by decide))
  have hnumeral := isNumeral_body before core after places n
  refine ⟨hnumeral.isDigit, hnumeral.value, le_length_wholeDigits _ _, head?_wholeDigits, le_length_fractionDigits, ?_,
    getLast?_fractionDigits, hnumeral.without_commas, ?_, ?_⟩
  · exact (length_fractionDigits_le hpart).trans (max_le (count_zero_le_fractionPlaces core) hplaces)
  · intro hgrouped
    rw [body_eq, if_pos ((isGrouped_iff hcore).mpr hgrouped)]
    exact ⟨_, isGrouping_groups (by decide) _, rfl⟩
  · intro hgrouped
    rw [body_eq, if_neg (mt (isGrouped_iff hcore).mp hgrouped)]

end Body

end Picture
end Numeric
end Stencil
