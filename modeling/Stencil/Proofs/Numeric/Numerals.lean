import Stencil.Proofs.Numeric.StandardForm

/-!
# Numerals

A numeral writes a whole number by its digits to a base. It is filled up with zeros to a width, but a number that needs
more digits gets no zero in front (`IsFilledNumeral`). Numerals are read digit by digit (`readNumeral?`), which accepts small and
capital digits, and with a minus sign in front of them (`readInteger?`).

The formats for decimal and for hexadecimal digits write numerals, and reading what they show gives the number back
(`digit_formats_read_back`). There is a limit on decimal digits, beyond which numbers have no text.
-/

namespace Stencil
namespace Numeric

/-! ## Reading numerals -/

/-- The digits of numerals to bases up to sixteen. -/
def numeralDigits (capitals : Bool) : List Char :=
  ['0', '1', '2', '3', '4', '5', '6', '7', '8', '9'] ++
    if capitals then ['A', 'B', 'C', 'D', 'E', 'F'] else ['a', 'b', 'c', 'd', 'e', 'f']

/-- The value of a digit to a base, small or capital. -/
def digitIn? (base : ℕ) (c : Char) : Option ℕ :=
  ((numeralDigits false).idxOf? c.toLower).filter (· < base)

/-- Reads digits behind those of a number that has been read. -/
def readOnto (base n : ℕ) (text : List Char) : Option ℕ :=
  text.foldlM (fun n c => (base * n + ·) <$> digitIn? base c) n

/-- Reads a numeral, which has at least one digit. -/
def readNumeral? (base : ℕ) (text : List Char) : Option ℕ :=
  if text.isEmpty then none else readOnto base 0 text

/-- Reads a numeral with or without a minus sign. -/
def readInteger? (base : ℕ) : List Char → Option ℤ
  | '-' :: text => (readNumeral? base text).map fun (n : ℕ) => -(n : ℤ)
  | text => (readNumeral? base text).map fun (n : ℕ) => (n : ℤ)

/-- A text is the numeral of a number to a base, filled up with zeros to a width and no further. -/
structure IsFilledNumeral (base : ℕ) (capitals : Bool) (width n : ℕ) (text : List Char) : Prop where
  mem_digits : ∀ c, c ∈ text → c ∈ (numeralDigits capitals).take base
  reads : readNumeral? base text = some n
  width_le : width ≤ text.length
  no_further : max 1 width < text.length → text.head? ≠ some '0'

theorem readOnto_cons (base n : ℕ) (c : Char) (text : List Char) :
    readOnto base n (c :: text) = (digitIn? base c).bind fun d => readOnto base (base * n + d) text := by
  rw [readOnto, List.foldlM_cons]
  cases digitIn? base c <;> rfl

theorem readOnto_append (base n : ℕ) (front back : List Char) :
    readOnto base n (front ++ back) = (readOnto base n front).bind fun m => readOnto base m back :=
  List.foldlM_append

/-! ## Writing numerals -/

/-- The digit of a number below sixteen. -/
def digitOf (capitals : Bool) (d : ℕ) : Char :=
  if capitals then (Nat.digitChar d).toUpper else Nat.digitChar d

theorem numeralDigits_getElem? : ∀ (capitals : Bool) (d : ℕ), d < 16 →
    (numeralDigits capitals)[d]? = some (digitOf capitals d) := by
  decide

theorem idxOf?_digitOf : ∀ (capitals : Bool) (d : ℕ), d < 16 →
    (numeralDigits false).idxOf? (digitOf capitals d).toLower = some d := by
  decide

theorem digitOf_eq_zero : ∀ (capitals : Bool) (d : ℕ), d < 16 → digitOf capitals d = '0' → d = 0 := by
  decide

section Base

variable {base : ℕ}

theorem digitIn?_digitOf (hlarge : base ≤ 16) (capitals : Bool) {d : ℕ} (hd : d < base) :
    digitIn? base (digitOf capitals d) = some d := by
  rw [digitIn?, idxOf?_digitOf capitals d (by omega)]
  simp [hd]

theorem digitOf_mem (hlarge : base ≤ 16) (capitals : Bool) {d : ℕ} (hd : d < base) :
    digitOf capitals d ∈ (numeralDigits capitals).take base := by
  refine List.mem_of_getElem? (i := d) ?_
  rw [List.getElem?_take_of_lt hd]
  exact numeralDigits_getElem? capitals d (by omega)

variable (capitals : Bool) (n : ℕ)

theorem inCase_append (front back : List Char) :
    Binary64.inCase capitals (front ++ back) = Binary64.inCase capitals front ++ Binary64.inCase capitals back := by
  cases capitals with
  | true => exact List.map_append
  | false => rfl

theorem inCase_digitChar (d : ℕ) : Binary64.inCase capitals [Nat.digitChar d] = [digitOf capitals d] := by
  cases capitals <;> rfl

theorem length_inCase (text : List Char) : (Binary64.inCase capitals text).length = text.length := by
  cases capitals with
  | true => exact List.length_map _
  | false => rfl

theorem exists_digitOf_of_mem (hbase : 1 < base) {c : Char}
    (h : c ∈ Binary64.inCase capitals (Nat.toDigits base n)) : ∃ d, d < base ∧ c = digitOf capitals d := by
  cases capitals with
  | true =>
      obtain ⟨digit, hdigit, rfl⟩ := List.mem_map.mp h
      obtain ⟨d, hd, rfl⟩ := exists_digitChar_of_mem_toDigits hbase hdigit
      exact ⟨d, hd, rfl⟩
  | false => exact exists_digitChar_of_mem_toDigits hbase h

/-- Reading the digits of a number gives the number. -/
theorem readOnto_toDigits (hbase : 1 < base) (hlarge : base ≤ 16) :
    readOnto base 0 (Binary64.inCase capitals (Nat.toDigits base n)) = some n := by
  induction n using Nat.strong_induction_on with
  | _ n ih =>
      rw [Nat.toDigits_eq_if hbase]
      split
      · next hsmall =>
          rw [inCase_digitChar]
          simp [readOnto, digitIn?_digitOf hlarge capitals hsmall]
      · next hmany =>
          have hrest : n / base < n := Nat.div_lt_self (by omega) hbase
          have hlast : n % base < base := Nat.mod_lt n (by omega)
          rw [inCase_append, inCase_digitChar, readOnto_append, ih (n / base) hrest, Option.bind_some]
          simp [readOnto, digitIn?_digitOf hlarge capitals hlast, Nat.div_add_mod]

/-- Zeros in front of a numeral change nothing. -/
theorem readOnto_zeros_append (hbase : 1 < base) (hlarge : base ≤ 16) (k : ℕ) (text : List Char) :
    readOnto base 0 (List.replicate k '0' ++ text) = readOnto base 0 text := by
  have hzero : digitIn? base '0' = some 0 := digitIn?_digitOf (d := 0) hlarge false (by omega)
  induction k with
  | zero => rfl
  | succ k ih =>
      rw [List.replicate_succ, List.cons_append, readOnto_cons, hzero, Option.bind_some, Nat.mul_zero, ih]

theorem head?_inCase_toDigits_ne_zero (hbase : 1 < base) (hlarge : base ≤ 16) (hn : 0 < n) :
    (Binary64.inCase capitals (Nat.toDigits base n)).head? ≠ some '0' := by
  cases capitals with
  | false => exact head?_toDigits_ne_zero hbase hn
  | true =>
      intro hhead
      rw [Binary64.inCase, if_pos rfl, List.head?_map] at hhead
      obtain ⟨c, hc, hzero⟩ := Option.map_eq_some_iff.mp hhead
      obtain ⟨d, hd, rfl⟩ := exists_digitChar_of_mem_toDigits hbase (List.mem_of_head? hc)
      have hd' : d = 0 := digitOf_eq_zero true d (by omega) hzero
      subst hd'
      exact head?_toDigits_ne_zero hbase hn hc

/-- The digits of a number are its numeral, filled up with zeros. -/
theorem isFilledNumeral_leftpad (hbase : 1 < base) (hlarge : base ≤ 16) (width : ℕ) :
    IsFilledNumeral base capitals width n
      (List.leftpad width '0' (Binary64.inCase capitals (Nat.toDigits base n))) := by
  have hpos : 0 < (Nat.toDigits base n).length := Nat.length_toDigits_pos
  have hlength := length_inCase capitals (Nat.toDigits base n)
  refine ⟨?_, ?_, ?_, ?_⟩
  · intro c hc
    rw [List.leftpad, List.mem_append, List.mem_replicate] at hc
    obtain ⟨_, rfl⟩ | hdigit := hc
    · have hmem := digitOf_mem hlarge capitals (d := 0) (by omega)
      cases capitals <;> exact hmem
    · obtain ⟨d, hd, rfl⟩ := exists_digitOf_of_mem capitals n hbase hdigit
      exact digitOf_mem hlarge capitals hd
  · have hne : (List.leftpad width '0' (Binary64.inCase capitals (Nat.toDigits base n))).isEmpty = false := by
      rw [List.isEmpty_eq_false_iff, ← List.length_pos_iff, List.length_leftpad]
      omega
    rw [readNumeral?, hne, if_neg Bool.false_ne_true, List.leftpad, readOnto_zeros_append hbase hlarge,
      readOnto_toDigits capitals n hbase hlarge]
  · rw [List.length_leftpad]
    exact Nat.le_max_left _ _
  · intro hlong
    rw [List.length_leftpad] at hlong
    rw [List.leftpad, Nat.sub_eq_zero_of_le (by omega), List.replicate_zero, List.nil_append]
    refine head?_inCase_toDigits_ne_zero capitals n hbase hlarge (Nat.pos_of_ne_zero ?_)
    -- zero has one digit
    rintro rfl
    have hone : (Nat.toDigits base 0).length = 1 := by
      rw [Nat.toDigits_of_lt_base (by omega), List.length_singleton]
    omega

end Base

section Reading

variable {base : ℕ} {capitals : Bool} {width n : ℕ} {text : List Char}

theorem IsFilledNumeral.minus_not_mem (h : IsFilledNumeral base capitals width n text) : '-' ∉ text := by
  intro hminus
  have hmem := List.mem_of_mem_take (h.mem_digits '-' hminus)
  cases capitals <;> revert hmem <;> decide

/-- A numeral behind the sign of a number reads as the number. -/
theorem IsFilledNumeral.readInteger?_eq {n : ℤ} (h : IsFilledNumeral base capitals width n.natAbs text) :
    readInteger? base ((if n < 0 then ['-'] else []) ++ text) = some n := by
  by_cases hn : n < 0
  · rw [if_pos hn, List.singleton_append, readInteger?, h.reads, Option.map_some]
    congr 1
    omega
  · have hread : readInteger? base text = (readNumeral? base text).map fun (n : ℕ) => (n : ℤ) := by
      rw [readInteger?.eq_def]
      split
      · next rest => exact absurd List.mem_cons_self h.minus_not_mem
      · rfl
    rw [if_neg hn, List.nil_append, hread, h.reads, Option.map_some]
    congr 1
    omega

end Reading

/-! ## The formats for digits -/

/-- The whole number that a number is; truth values are one and zero. -/
def Number.whole? : Number → Option ℤ
  | .boolean b => some b.toNat
  | .integer n => some n
  | .binary _ | .decimal _ => none

theorem Number.whole?_integer (n : ℤ) : (Number.integer n).whole? = some n :=
  rfl

namespace StandardFormat

/-- The formats for digits take whole numbers only. -/
theorem requireInteger_eq (format : StandardFormat) (number : Number) :
    format.requireInteger number = number.whole?.elim (.error (.integerRequired format.letter)) .ok := by
  cases number with
  | boolean b => rfl
  | integer n => rfl
  | binary x => rfl
  | decimal d => rfl

section Shown

variable {number : Number} {precision : List Char} {width : ℕ} {letter : Char}

/-- A format is applied with the width that its precision asks for. -/
theorem exists_format_eq {form : StandardLetter} (hletter : StandardLetter.ofCapital? letter.toUpper = some form)
    (hlength : precision.length ≤ 2) (hwidth : Text.decimalNumber? precision = some width) (number : Number) :
    ∃ p : Option ℕ, p.getD 0 = width ∧ number.format (String.ofList (letter :: precision)) =
      String.ofList <$> (⟨form, letter, p⟩ : StandardFormat).apply number := by
  refine ⟨if precision.isEmpty then none else some width, ?_, ?_⟩
  · cases precision with
    | nil =>
        cases hwidth
        rfl
    | cons c precision => rfl
  · rw [Number.format, String.toList_ofList, read?_cons hletter hlength hwidth]

theorem format_decimal_of_whole {n : ℤ} (hnumber : number.whole? = some n)
    (hletter : StandardLetter.ofCapital? letter.toUpper = some .decimal) (hlength : precision.length ≤ 2)
    (hwidth : Text.decimalNumber? precision = some width) :
    number.format (String.ofList (letter :: precision)) =
      if n.natAbs < 10 ^ maxDigits then
        .ok (String.ofList ((if n < 0 then ['-'] else []) ++ paddedDigits width n.natAbs))
      else .error .tooManyDigits := by
  obtain ⟨p, rfl, hformat⟩ := exists_format_eq hletter hlength hwidth number
  rw [hformat, apply]
  dsimp only
  rw [requireInteger_eq, hnumber]
  change String.ofList <$> formatDecimal _ n = _
  rw [formatDecimal]
  by_cases hfew : n.natAbs < 10 ^ maxDigits
  · rw [if_pos hfew, decimalDigits_of_le (digitCount_le_maxDigits_iff.mpr hfew)]
    rfl
  · rw [if_neg hfew, decimalDigits_of_lt (not_le.mp (mt digitCount_le_maxDigits_iff.mp hfew))]
    rfl

theorem format_hexadecimal_of_whole {n : ℤ} (hnumber : number.whole? = some n)
    (hletter : StandardLetter.ofCapital? letter.toUpper = some .hexadecimal) (hlength : precision.length ≤ 2)
    (hwidth : Text.decimalNumber? precision = some width) :
    number.format (String.ofList (letter :: precision)) =
      if n < 0 then .error .negativeHexadecimal
      else .ok (String.ofList
        (List.leftpad width '0' (Binary64.inCase letter.isUpper (Nat.toDigits 16 n.natAbs)))) := by
  obtain ⟨p, rfl, hformat⟩ := exists_format_eq hletter hlength hwidth number
  rw [hformat, apply]
  dsimp only
  rw [requireInteger_eq, hnumber]
  change String.ofList <$> formatHexadecimal _ n = _
  rw [formatHexadecimal]
  by_cases hn : n < 0
  · rw [if_pos hn, if_pos hn]
    rfl
  · rw [if_neg hn, if_neg hn]
    rfl

theorem format_of_not_whole {form : StandardLetter} (hnumber : number.whole? = none)
    (hform : form = .decimal ∨ form = .hexadecimal)
    (hletter : StandardLetter.ofCapital? letter.toUpper = some form) (hlength : precision.length ≤ 2)
    (hwidth : Text.decimalNumber? precision = some width) :
    number.format (String.ofList (letter :: precision)) = .error (.integerRequired letter) := by
  obtain ⟨p, rfl, hformat⟩ := exists_format_eq hletter hlength hwidth number
  rw [hformat, apply]
  obtain rfl | rfl := hform
  · dsimp only
    rw [requireInteger_eq, hnumber]
    rfl
  · dsimp only
    rw [requireInteger_eq, hnumber]
    rfl

end Shown

end StandardFormat

open StandardFormat

/-- The formats for digits, with every way to write a precision, or without one. A whole number in decimal digits is its
numeral, of at least as many digits as the precision, behind a minus sign if it is negative, and it can be read from that;
but a number of more digits than the limit allows is refused. Hexadecimal digits, which are capitals or not as the letter
is, have no limit; but negative numbers have none of them. All numbers that are not whole by their kind are refused, and
every refusal is that of a bad value. -/
theorem digit_formats_read_back (number : Number) {precision : List Char} {width : ℕ}
    (hlength : precision.length ≤ 2) (hwidth : Text.decimalNumber? precision = some width) :
    let shown := fun (letter : Char) => number.format (String.ofList (letter :: precision))
    (∀ n letter, number.whole? = some n → n.natAbs < 10 ^ maxDigits → letter ∈ ['D', 'd'] →
        ∃ numeral, IsFilledNumeral 10 false width n.natAbs numeral ∧
          shown letter = .ok (String.ofList ((if n < 0 then ['-'] else []) ++ numeral)) ∧
          readInteger? 10 ((if n < 0 then ['-'] else []) ++ numeral) = some n) ∧
      (∀ n letter, number.whole? = some n → 10 ^ maxDigits ≤ n.natAbs → letter ∈ ['D', 'd'] →
        shown letter = .error .tooManyDigits) ∧
      (∀ n capitals, number.whole? = some n → 0 ≤ n →
        ∃ numeral, IsFilledNumeral 16 capitals width n.natAbs numeral ∧
          shown (if capitals then 'X' else 'x') = .ok (String.ofList numeral) ∧
          readInteger? 16 numeral = some n) ∧
      (∀ n letter, number.whole? = some n → n < 0 → letter ∈ ['X', 'x'] →
        shown letter = .error .negativeHexadecimal) ∧
      (∀ letter, number.whole? = none → letter ∈ ['D', 'd', 'X', 'x'] →
        shown letter = .error (.integerRequired letter)) ∧
      Fault.tooManyDigits.kind = .badValue ∧ Fault.negativeHexadecimal.kind = .badValue ∧
      ∀ letter, (Fault.integerRequired letter).kind = .badValue := by
  intro shown
  have hdecimal : ∀ letter, letter ∈ ['D', 'd'] → StandardLetter.ofCapital? letter.toUpper = some .decimal := by
    intro letter hletter
    rcases List.mem_pair.mp hletter with rfl | rfl
    · rfl
    · rfl
  have hhexadecimal : ∀ letter, letter ∈ ['X', 'x'] →
      StandardLetter.ofCapital? letter.toUpper = some .hexadecimal := by
    intro letter hletter
    rcases List.mem_pair.mp hletter with rfl | rfl
    · rfl
    · rfl
  refine ⟨?_, ?_, ?_, ?_, ?_, rfl, rfl, fun _ => rfl⟩
  · intro n letter hnumber hfew hletter
    have hnumeral : IsFilledNumeral 10 false width n.natAbs (paddedDigits width n.natAbs) :=
      isFilledNumeral_leftpad false n.natAbs (by decide) (by decide) width
    have hshown := format_decimal_of_whole hnumber (hdecimal letter hletter) hlength hwidth
    rw [if_pos hfew] at hshown
    exact ⟨_, hnumeral, hshown, hnumeral.readInteger?_eq⟩
  · intro n letter hnumber hmany hletter
    have hshown := format_decimal_of_whole hnumber (hdecimal letter hletter) hlength hwidth
    rwa [if_neg (not_lt.mpr hmany)] at hshown
  · intro n capitals hnumber hn
    have hnumeral : IsFilledNumeral 16 capitals width n.natAbs
        (List.leftpad width '0' (Binary64.inCase capitals (Nat.toDigits 16 n.natAbs))) :=
      isFilledNumeral_leftpad capitals n.natAbs (by decide) (by decide) width
    have hread := hnumeral.readInteger?_eq
    rw [if_neg (not_lt.mpr hn), List.nil_append] at hread
    have hletter : (if capitals then 'X' else 'x') ∈ ['X', 'x'] := by
      cases capitals <;> decide
    have hcase : (if capitals then 'X' else 'x').isUpper = capitals := by
      cases capitals <;> rfl
    have hshown := format_hexadecimal_of_whole hnumber (hhexadecimal _ hletter) hlength hwidth
    rw [if_neg (not_lt.mpr hn), hcase] at hshown
    exact ⟨_, hnumeral, hshown, hread⟩
  · intro n letter hnumber hn hletter
    have hshown := format_hexadecimal_of_whole hnumber (hhexadecimal letter hletter) hlength hwidth
    rwa [if_pos hn] at hshown
  · intro letter hnumber hletter
    obtain hletter | hletter := (List.mem_append (s := ['D', 'd']) (t := ['X', 'x'])).mp hletter
    · exact format_of_not_whole hnumber (.inl rfl) (hdecimal letter hletter) hlength hwidth
    · exact format_of_not_whole hnumber (.inr rfl) (hhexadecimal letter hletter) hlength hwidth

/-- A number with three digits under a precision of five, written with a zero in front: its sign does not count, and without
the sign it has hexadecimal digits. A number of one digit too many is refused. -/
theorem digit_formats_read_back_of_sign :
    let precision := ['0', '5']
    let below := Number.integer (-255)
    let above := Number.integer 255
    let long := Number.integer (10 ^ maxDigits)
    precision.length ≤ 2 ∧ Text.decimalNumber? precision = some 5 ∧
      below.whole? = some (-255) ∧ above.whole? = some 255 ∧ long.whole? = some (10 ^ maxDigits) ∧
      255 < 10 ^ maxDigits ∧ 10 ^ maxDigits ≤ (10 ^ maxDigits : ℤ).natAbs ∧ 'D' ∈ ['D', 'd'] ∧
      below.format "D05" = .ok "-00255" ∧
      (∃ numeral, IsFilledNumeral 10 false 5 255 numeral ∧
        below.format "D05" = .ok (String.ofList ('-' :: numeral)) ∧
        readInteger? 10 ('-' :: numeral) = some (-255)) ∧
      long.format "D05" = .error .tooManyDigits ∧
      below.format "x05" = .error .negativeHexadecimal ∧ above.format "x05" = .ok "000ff" ∧
      ∃ numeral, IsFilledNumeral 16 false 5 255 numeral ∧ above.format "x05" = .ok (String.ofList numeral) ∧
        readInteger? 16 numeral = some 255 := by
  intro precision below above long
  have hlength : precision.length ≤ 2 := by
    decide
  have hwidth : Text.decimalNumber? precision = some 5 := by
    decide
  have hbelow : below.whole? = some (-255) := rfl
  have habove : above.whole? = some 255 := rfl
  have hlong : long.whole? = some (10 ^ maxDigits) := Number.whole?_integer _
  have hfew : 255 < 10 ^ maxDigits :=
    lt_of_lt_of_le (by decide : 255 < 10 ^ 3) (Nat.pow_le_pow_right (by decide) (by decide))
  have hmany : 10 ^ maxDigits ≤ (10 ^ maxDigits : ℤ).natAbs := (natAbs_ten_pow maxDigits).ge
  have hletter : 'D' ∈ ['D', 'd'] := by
    decide
  have hnegative : (-255 : ℤ) < 0 := by
    decide
  obtain ⟨hdecimal, -, -, hrefused, -⟩ := digit_formats_read_back below hlength hwidth
  obtain ⟨-, -, hhexadecimal, -⟩ := digit_formats_read_back above hlength hwidth
  obtain ⟨-, hlimit, -⟩ := digit_formats_read_back long hlength hwidth
  refine ⟨hlength, hwidth, hbelow, habove, hlong, hfew, hmany, hletter, ?_, hdecimal (-255) 'D' hbelow hfew hletter,
    hlimit _ 'D' hlong hmany hletter, hrefused (-255) 'x' hbelow hnegative (by decide), ?_,
    hhexadecimal 255 false habove (by decide)⟩
  · decide
  · decide

/-- The least number with too many digits has no text in decimal digits, though it has hexadecimal ones. -/
theorem no_decimal_digits_beyond_limit :
    (Number.integer (10 ^ maxDigits)).format "D" = .error .tooManyDigits ∧
      (¬ ∃ shown, (Number.integer (10 ^ maxDigits)).format "D" = .ok shown) ∧
      ∃ shown, (Number.integer (10 ^ maxDigits)).format "X" = .ok shown := by
  have hwhole := Number.whole?_integer (10 ^ maxDigits)
  have hmany : ¬ (10 ^ maxDigits : ℤ).natAbs < 10 ^ maxDigits := not_lt.mpr (natAbs_ten_pow maxDigits).ge
  have hnonneg : ¬ (10 ^ maxDigits : ℤ) < 0 := not_lt.mpr (by positivity)
  have hdecimal : (Number.integer (10 ^ maxDigits)).format (String.ofList ['D']) = _ :=
    format_decimal_of_whole hwhole rfl (by decide) rfl
  have hhexadecimal : (Number.integer (10 ^ maxDigits)).format (String.ofList ['X']) = _ :=
    format_hexadecimal_of_whole hwhole rfl (by decide) rfl
  rw [if_neg hmany] at hdecimal
  rw [if_neg hnonneg] at hhexadecimal
  refine ⟨hdecimal, ?_, _, hhexadecimal⟩
  rintro ⟨shown, hshown⟩
  rw [show "D" = String.ofList ['D'] from rfl, hdecimal] at hshown
  cases hshown

end Numeric
end Stencil
