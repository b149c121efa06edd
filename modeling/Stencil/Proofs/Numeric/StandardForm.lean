import Stencil.Numeric.Format
import Stencil.Proofs.Numeric.Digits
import Stencil.Proofs.Numeric.Grouping
import Mathlib.Tactic.Linarith

/-!
# Standard formats with places

A standard format is written as its letter and the digits of its precision (`StandardFormat.written`), and is read as just
this (`read?_written`). The formats with places put a sign, the whole digits, which may be grouped, and the rest behind each
other (`Layout.number_plain`). All that they add to the digits can be taken out again, so a number can be read from what is
shown of it (`Layout.filter_isDigit_number_plain`).
-/

namespace Stencil
namespace Numeric

/-! ## Digits of a precision -/

theorem decimalValue?_of_isDigit {c : Char} (h : c.isDigit = true) :
    Text.decimalValue? c = some (c.toNat - '0'.toNat) := by
  obtain ⟨hlower, hupper⟩ := Char.isDigit_iff_toNat.mp h
  have hfirst : Text.decimalRuns = ('0'.toNat, '9'.toNat) :: Text.decimalRuns.tail := rfl
  have hvalue : (c.toNat - '0'.toNat) % 10 = c.toNat - '0'.toNat := by
    have hnine : '9'.toNat = '0'.toNat + 9 := rfl
    exact Nat.mod_eq_of_lt (by omega)
  rw [Text.decimalValue?, hfirst, List.find?_cons_of_pos (by simp only [hlower, hupper, decide_true, Bool.and_self]),
    Option.map_some]
  exact congrArg some hvalue

/-- Digits write the same number to every reader. -/
theorem decimalNumber?_of_isDigit {text : List Char} (h : ∀ c, c ∈ text → c.isDigit = true) :
    Text.decimalNumber? text = some (digitsValue text) := by
  -- the fold over the digits starts anywhere
  suffices hfold : ∀ start : ℕ, text.foldl (fun sum c => do return (← sum) * 10 + (← Text.decimalValue? c))
      (some start) = some (text.foldl (fun n c => 10 * n + (c.toNat - '0'.toNat)) start) from hfold 0
  induction text with
  | nil => exact fun start => rfl
  | cons c text ih =>
      rw [List.forall_mem_cons] at h
      intro start
      rw [List.foldl_cons, List.foldl_cons, decimalValue?_of_isDigit h.1, ← ih h.2, Nat.mul_comm 10]
      rfl

namespace StandardFormat

/-- A standard format as it is written: its letter, and the digits of its precision if it has one. -/
def written (letter : Char) (precision : Option ℕ) : String :=
  String.ofList (letter :: (precision.map digits).getD [])

section Written

variable {letter : Char} {form : StandardLetter} {precision : Option ℕ}

/-- A format is read from its letter and from any digits of its precision, two at most. -/
theorem read?_cons {digits : List Char} {n : ℕ} (hletter : StandardLetter.ofCapital? letter.toUpper = some form)
    (hlength : digits.length ≤ 2) (hnumber : Text.decimalNumber? digits = some n) :
    read? (letter :: digits) = some ⟨form, letter, if digits.isEmpty then none else some n⟩ := by
  simp [read?, hletter, hlength, hnumber]

/-- A format with a precision of two digits at most is read as it was written. -/
theorem read?_written (hletter : StandardLetter.ofCapital? letter.toUpper = some form)
    (hprecision : ∀ p, p ∈ precision → p < 100) :
    read? (written letter precision).toList = some ⟨form, letter, precision⟩ := by
  rw [written, String.toList_ofList]
  cases precision with
  | none => exact read?_cons hletter (Nat.zero_le 2) rfl
  | some p =>
      have hlength : (digits p).length ≤ 2 := (digitCount_le_iff (by decide)).mpr (hprecision p rfl)
      have hempty : (digits p).isEmpty = false := by
        rw [List.isEmpty_eq_false_iff, ← List.length_pos_iff]
        exact digitCount_pos p
      have hvalue := decimalNumber?_of_isDigit fun c => isDigit_of_mem_digits (n := p)
      rw [digitsValue_digits] at hvalue
      rw [Option.map_some, Option.getD_some, read?_cons hletter hlength hvalue, hempty, if_neg Bool.false_ne_true]

theorem format_written (number : Number) (hletter : StandardLetter.ofCapital? letter.toUpper = some form)
    (hprecision : ∀ p, p ∈ precision → p < 100) :
    number.format (written letter precision) =
      String.ofList <$> (⟨form, letter, precision⟩ : StandardFormat).apply number := by
  rw [Number.format, read?_written hletter hprecision]

end Written

theorem map_ofList_eq_ok_iff {given : Except Fault (List Char)} {text : List Char} :
    String.ofList <$> given = .ok (String.ofList text) ↔ given = .ok text := by
  cases given with
  | error fault => exact iff_of_false nofun nofun
  | ok other =>
      change Except.ok (String.ofList other) = .ok (String.ofList text) ↔ _
      rw [Except.ok.injEq, Except.ok.injEq, String.ofList_inj]

theorem map_ofList_eq_error_iff {given : Except Fault (List Char)} {fault : Fault} :
    String.ofList <$> given = .error fault ↔ given = .error fault := by
  cases given with
  | error other =>
      change Except.error other = .error fault ↔ _
      rw [Except.error.injEq, Except.error.injEq]
  | ok text => exact iff_of_false nofun nofun

/-! ## The currency sign -/

/-- A text with the currency sign put behind the minus sign in front of it, or to the front. -/
def withCurrencySign : List Char → List Char
  | '-' :: text => '-' :: currencySign :: text
  | text => currencySign :: text

/-- A text with the currency sign. -/
def markCurrency (text : String) : String :=
  String.ofList (withCurrencySign text.toList)

theorem map_markCurrency (given : Except Fault (List Char)) :
    markCurrency <$> String.ofList <$> given = String.ofList <$> withCurrencySign <$> given := by
  cases given with
  | error fault => rfl
  | ok text =>
      change Except.ok (String.ofList (withCurrencySign (String.ofList text).toList)) = _
      rw [String.toList_ofList]
      rfl

theorem withCurrencySign_sign_append (negative : Bool) {text : List Char} (h : text.head? ≠ some '-') :
    withCurrencySign ((if negative then ['-'] else []) ++ text) =
      (if negative then ['-'] else []) ++ currencySign :: text := by
  cases negative with
  | true => rfl
  | false =>
      rw [if_neg Bool.false_ne_true, List.nil_append, List.nil_append, withCurrencySign]
      rintro rest rfl
      exact h rfl

theorem filter_isDigit_withCurrencySign (text : List Char) :
    (withCurrencySign text).filter Char.isDigit = text.filter Char.isDigit := by
  rw [withCurrencySign.eq_def]
  split
  · rfl
  · exact List.filter_cons_of_neg (by decide)

end StandardFormat

/-! ## Numbers in a field that adds nothing -/

/-- Digits are grouped in a text if it is made of groups of them, with commas between these. -/
def IsGrouped (size : ℕ) (digits text : List Char) : Prop :=
  ∃ groups, IsGrouping size digits groups ∧ text = [','].intercalate groups

theorem isGrouped_thousands (text : List Char) : IsGrouped 3 text (thousands text) :=
  ⟨groups 3 text, isGrouping_groups (by decide) text, rfl⟩

section IsGrouped

variable {size : ℕ} {digits text : List Char}

/-- Taking the commas out of grouped digits gives the digits. -/
theorem IsGrouped.filter_ne_comma (h : IsGrouped size digits text) (hdigits : ∀ c, c ∈ digits → c.isDigit = true) :
    text.filter (· ≠ ',') = digits := by
  obtain ⟨groups, hgroups, rfl⟩ := h
  rw [filter_intercalate, hgroups.flatten_eq]
  intro group hgroup hcomma
  have hmem : ',' ∈ digits := by
    rw [← hgroups.flatten_eq]
    exact List.mem_flatten_of_mem hgroup hcomma
  cases hdigits _ hmem

/-- Only the digits stay of grouped digits if all else is taken out. -/
theorem IsGrouped.filter_isDigit (h : IsGrouped size digits text) (hdigits : ∀ c, c ∈ digits → c.isDigit = true) :
    text.filter Char.isDigit = digits := by
  have hfilter : text.filter Char.isDigit = (text.filter (· ≠ ',')).filter Char.isDigit := by
    rw [List.filter_filter]
    refine List.filter_congr fun c _ => ?_
    by_cases hc : c = ','
    · subst hc
      rfl
    · simp [hc]
  rw [hfilter, h.filter_ne_comma hdigits]
  exact List.filter_eq_self.mpr hdigits

end IsGrouped

namespace Layout

theorem groupedWhole_plain (commas : Bool) (width : ℕ) (whole : List Char) :
    (plain commas).groupedWhole width whole = if commas then thousands whole else whole := by
  cases whole with
  | nil =>
      have hnone : thousands [] = [] := by
        rw [thousands, grouped, groups, dif_pos (.inr (Nat.zero_le 3)), List.intercalate_singleton]
      rw [groupedWhole, if_pos List.isEmpty_nil, hnone, ite_self]
  | cons c whole =>
      have hpad : List.leftpad 0 '0' (c :: whole) = c :: whole := by
        rw [List.leftpad, Nat.zero_sub, List.replicate_zero, List.nil_append]
      have hfill (size : ℕ) : digitsToFill size 0 = 0 := by
        rw [digitsToFill, Nat.zero_sub, ite_self]
      rw [groupedWhole, List.isEmpty_cons, if_neg Bool.false_ne_true]
      cases commas with
      | true =>
          simp only [plain, if_true, Bool.false_eq_true, if_false, hfill, hpad]
          rfl
      | false =>
          simp only [plain, Bool.false_eq_true, if_false, hfill, hpad]
          exact (congrArg [','].intercalate (by rw [groups, dif_pos (.inl rfl)])).trans List.intercalate_singleton

/-- In a field that adds nothing, a number is its sign, its whole digits and the rest. -/
theorem number_plain (commas negative : Bool) (figure : Figure) :
    (plain commas).number negative [] figure =
      (if negative then ['-'] else []) ++
        ((if commas then thousands figure.whole else figure.whole) ++ figure.rest) := by
  have hwidth : (plain commas).width = 0 := by
    cases commas <;> rfl
  have halign : (plain commas).align = .right := by
    cases commas <;> rfl
  have hmark : (plain commas).sign.mark negative = if negative then ['-'] else [] := by
    cases commas <;> cases negative <;> rfl
  rw [number, hmark, List.append_nil, groupedWhole_plain, place, hwidth, halign, Nat.zero_sub,
    List.replicate_zero]
  rfl

theorem filter_isDigit_pointed {fraction : List Char} (h : ∀ c, c ∈ fraction → c.isDigit = true) (keepPoint : Bool) :
    (Figure.pointed keepPoint fraction).filter Char.isDigit = fraction := by
  have hfraction : fraction.filter Char.isDigit = fraction := List.filter_eq_self.mpr h
  rw [Figure.pointed]
  split
  · next hnone =>
      rw [Bool.and_eq_true, List.isEmpty_iff] at hnone
      rw [hnone.1]
      rfl
  · rw [List.filter_cons_of_neg (by decide), hfraction]

theorem filter_isDigit_sign (negative : Bool) : (if negative then ['-'] else []).filter Char.isDigit = [] := by
  cases negative <;> rfl

theorem filter_isDigit_whole (commas : Bool) {whole : List Char} (hwhole : ∀ c, c ∈ whole → c.isDigit = true) :
    (if commas then thousands whole else whole).filter Char.isDigit = whole := by
  cases commas with
  | true => exact (isGrouped_thousands whole).filter_isDigit hwhole
  | false => exact List.filter_eq_self.mpr hwhole

/-- Of a number in such a field, only its digits stay if all else is taken out. -/
theorem filter_isDigit_number_plain (commas negative : Bool) {figure : Figure}
    (hwhole : ∀ c, c ∈ figure.whole → c.isDigit = true) :
    ((plain commas).number negative [] figure).filter Char.isDigit =
      figure.whole ++ figure.rest.filter Char.isDigit := by
  rw [number_plain, List.filter_append, List.filter_append, filter_isDigit_sign, filter_isDigit_whole commas hwhole,
    List.nil_append]

/-- The whole digits of a number do not start with a minus sign. -/
theorem head?_whole_ne_minus (commas : Bool) {figure : Figure} (hne : figure.whole ≠ [])
    (hwhole : ∀ c, c ∈ figure.whole → c.isDigit = true) :
    ((if commas then thousands figure.whole else figure.whole) ++ figure.rest).head? ≠ some '-' := by
  have hcommas : (if commas then thousands figure.whole else figure.whole).filter (· ≠ ',') = figure.whole := by
    cases commas with
    | true => exact (isGrouped_thousands figure.whole).filter_ne_comma hwhole
    | false =>
        refine List.filter_eq_self.mpr fun c hc => ?_
        rw [decide_eq_true_eq]
        rintro rfl
        cases hwhole _ hc
  have hshown : (if commas then thousands figure.whole else figure.whole) ≠ [] := by
    intro hnil
    rw [hnil] at hcommas
    exact hne hcommas.symm
  rw [List.head?_append_of_ne_nil _ hshown]
  intro hminus
  have hmem : '-' ∈ figure.whole := by
    rw [← hcommas, List.mem_filter]
    exact ⟨List.mem_of_head? hminus, rfl⟩
  cases hwhole _ hmem

/-- The currency sign stands between the sign of a number and the number without its sign. -/
theorem withCurrencySign_number_plain (commas negative : Bool) (figure : Figure) (hne : figure.whole ≠ [])
    (hwhole : ∀ c, c ∈ figure.whole → c.isDigit = true) :
    StandardFormat.withCurrencySign ((plain commas).number negative [] figure) =
      (if negative then ['-'] else []) ++
        StandardFormat.currencySign :: (plain commas).number false [] figure := by
  rw [number_plain, number_plain,
    StandardFormat.withCurrencySign_sign_append negative (head?_whole_ne_minus commas hne hwhole)]
  rfl

end Layout

end Numeric
end Stencil
