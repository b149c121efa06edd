import Stencil.Numeric.Digits
import Stencil.Proofs.Text.Front
import Mathlib.Data.Rat.Cast.Order
import Mathlib.Tactic.FieldSimp
import Mathlib.Tactic.Ring

/-!
# Digits and the numbers they write

The digits of a number write it, and their count gives its size. Zeros in front of a whole number change nothing, nor do
zeros behind a fraction (`fractionValue`).
-/

namespace Stencil
namespace Numeric

/-! ## Counting digits -/

theorem digitCount_pos (n : ℕ) : 0 < digitCount n :=
  Nat.length_toDigits_pos

theorem digitCount_le_iff {n k : ℕ} (hk : 0 < k) : digitCount n ≤ k ↔ n < 10 ^ k :=
  Nat.length_toDigits_le_iff (by decide) hk

/-- The numbers that have a text in decimal digits are those below a power of ten. -/
theorem digitCount_le_maxDigits_iff {n : ℕ} : digitCount n ≤ maxDigits ↔ n < 10 ^ maxDigits :=
  digitCount_le_iff (by decide)

theorem natAbs_ten_pow (k : ℕ) : (10 ^ k : ℤ).natAbs = 10 ^ k :=
  Int.natAbs_pow 10 k

theorem lt_pow_digitCount (n : ℕ) : n < 10 ^ digitCount n :=
  (digitCount_le_iff (digitCount_pos n)).mp le_rfl

theorem pow_le_of_lt_digitCount {n k : ℕ} (hn : 0 < n) (h : k < digitCount n) : 10 ^ k ≤ n := by
  cases k with
  | zero => exact hn
  | succ k =>
      by_contra hlt
      have hcount := (digitCount_le_iff k.succ_pos).mpr (not_le.mp hlt)
      omega

/-- A number between two powers of ten has as many digits as the exponent of the upper one. -/
theorem digitCount_eq {n k : ℕ} (hlower : 10 ^ k ≤ n) (hupper : n < 10 ^ (k + 1)) : digitCount n = k + 1 := by
  have hle := (digitCount_le_iff k.succ_pos).mpr hupper
  by_contra hne
  cases k with
  | zero =>
      have := digitCount_pos n
      omega
  | succ k =>
      have hlt := (digitCount_le_iff k.succ_pos).mp (by omega : digitCount n ≤ k + 1)
      omega

theorem digitCount_mul_pow {n : ℕ} (hn : 0 < n) (k : ℕ) : digitCount (n * 10 ^ k) = digitCount n + k := by
  obtain ⟨c, hc⟩ := Nat.exists_eq_succ_of_ne_zero (digitCount_pos n).ne'
  have hlower : 10 ^ c ≤ n := pow_le_of_lt_digitCount hn (by omega)
  have hupper : n < 10 ^ (c + 1) := by
    have := lt_pow_digitCount n
    rwa [hc] at this
  have hten : 0 < 10 ^ k := Nat.pow_pos (by decide)
  rw [hc, show c.succ + k = (c + k) + 1 by omega]
  refine digitCount_eq ?_ ?_
  · rw [Nat.pow_add]
    exact Nat.mul_le_mul_right _ hlower
  · rw [show c + k + 1 = (c + 1) + k by omega, Nat.pow_add]
    exact Nat.mul_lt_mul_of_pos_right hupper hten

/-! ## The numbers that digits write -/

@[simp] theorem digitsValue_nil : digitsValue [] = 0 := by
  rfl

@[simp] theorem digitsValue_digits (n : ℕ) : digitsValue (digits n) = n :=
  Nat.ofDigitChars_toDigits (by decide) (by decide)

theorem digitsValue_append (front back : List Char) :
    digitsValue (front ++ back) = digitsValue front * 10 ^ back.length + digitsValue back := by
  change Nat.ofDigitChars 10 (front ++ back) 0 = _
  rw [Nat.ofDigitChars_append, Nat.ofDigitChars_eq_ofDigitChars_zero, Nat.mul_comm]
  rfl

theorem digitsValue_replicate_zero (k : ℕ) : digitsValue (List.replicate k '0') = 0 := by
  induction k with
  | zero => rfl
  | succ k ih => exact ih

theorem digitsValue_leftpad (width : ℕ) (text : List Char) :
    digitsValue (List.leftpad width '0' text) = digitsValue text := by
  rw [List.leftpad, digitsValue_append, digitsValue_replicate_zero, Nat.zero_mul, Nat.zero_add]

/-- The number that digits behind a point write. -/
def fractionValue (text : List Char) : ℚ :=
  digitsValue text / 10 ^ text.length

theorem fractionValue_append_zeros (text : List Char) (k : ℕ) :
    fractionValue (text ++ List.replicate k '0') = fractionValue text := by
  rw [fractionValue, fractionValue, digitsValue_append, digitsValue_replicate_zero, List.length_append,
    List.length_replicate, pow_add]
  push_cast
  field_simp
  ring

theorem isDigit_of_mem_digits {c : Char} {n : ℕ} (h : c ∈ digits n) : c.isDigit = true :=
  Nat.isDigit_of_mem_toDigits (by decide) (by decide) h

theorem digitsValue_cons (c : Char) (text : List Char) :
    digitsValue (c :: text) = (c.toNat - '0'.toNat) * 10 ^ text.length + digitsValue text := by
  have h := digitsValue_append [c] text
  rwa [show digitsValue [c] = c.toNat - '0'.toNat from Nat.zero_add _] at h

/-- Digits write less than a power of ten with as many zeros. -/
theorem digitsValue_lt_pow {text : List Char} (h : ∀ c, c ∈ text → c.isDigit = true) :
    digitsValue text < 10 ^ text.length := by
  induction text with
  | nil => exact Nat.one_pos
  | cons c text ih =>
      rw [List.forall_mem_cons] at h
      have hc : c.toNat ≤ 57 := (Char.isDigit_iff_toNat.mp h.1).2
      have hrest := ih h.2
      have hfirst : (c.toNat - 48) * 10 ^ text.length ≤ 9 * 10 ^ text.length :=
        Nat.mul_le_mul_right _ (by omega)
      rw [digitsValue_cons, List.length_cons, Nat.pow_succ]
      change (c.toNat - 48) * 10 ^ text.length + digitsValue text < _
      omega

/-- Digits that do not end with a zero write no multiple of ten. -/
theorem not_ten_dvd_digitsValue {text : List Char} (h : ∀ c, c ∈ text → c.isDigit = true) (hne : text ≠ [])
    (hlast : text.getLast? ≠ some '0') : ¬ 10 ∣ digitsValue text := by
  obtain ⟨front, c, rfl⟩ := (List.eq_nil_or_concat text).resolve_left hne
  rw [List.concat_eq_append] at h hlast ⊢
  rw [List.getLast?_concat, Ne, Option.some.injEq] at hlast
  have hrange : 48 ≤ c.toNat ∧ c.toNat ≤ 57 := Char.isDigit_iff_toNat.mp (h c (by simp))
  have hzero : '0'.toNat = 48 := rfl
  have hc : c.toNat ≠ 48 := fun hcode => hlast (Char.toNat_inj.mp (hcode.trans hzero.symm))
  rw [digitsValue_append, digitsValue_cons, digitsValue_nil, List.length_singleton, List.length_nil, Nat.pow_zero, hzero]
  omega

/-! ## Digits of a number, filled up -/

section PaddedDigits

variable {width n : ℕ}

@[simp] theorem digitsValue_paddedDigits (width n : ℕ) : digitsValue (paddedDigits width n) = n := by
  rw [paddedDigits, digitsValue_leftpad, digitsValue_digits]

theorem paddedDigits_inj {m n : ℕ} : paddedDigits width m = paddedDigits width n ↔ m = n := by
  refine ⟨fun h => ?_, congrArg (paddedDigits width)⟩
  rw [← digitsValue_paddedDigits width m, h, digitsValue_paddedDigits]

theorem length_paddedDigits (hwidth : 0 < width) (h : n < 10 ^ width) : (paddedDigits width n).length = width := by
  rw [paddedDigits, List.length_leftpad]
  exact Nat.max_eq_left ((digitCount_le_iff hwidth).mpr h)

theorem isDigit_of_mem_paddedDigits {c : Char} (h : c ∈ paddedDigits width n) : c.isDigit = true := by
  rw [paddedDigits, List.leftpad, List.mem_append, List.mem_replicate] at h
  obtain ⟨_, rfl⟩ | h := h
  · rfl
  · exact isDigit_of_mem_digits h

end PaddedDigits

/-- The digits of a positive number to any base start with one that is not zero. -/
theorem head?_toDigits_ne_zero {base n : ℕ} (hbase : 1 < base) (hn : 0 < n) :
    (Nat.toDigits base n).head? ≠ some '0' := by
  induction n using Nat.strong_induction_on with
  | _ n ih =>
      rw [Nat.toDigits_eq_if hbase]
      split
      · simpa using hn.ne'
      · next hlarge =>
          rw [List.head?_append_of_ne_nil _ Nat.toDigits_ne_nil]
          exact ih (n / base) (Nat.div_lt_self hn hbase) (Nat.div_pos (not_lt.mp hlarge) (by omega))

theorem head?_digits_ne_zero {n : ℕ} (hn : 0 < n) : (digits n).head? ≠ some '0' :=
  head?_toDigits_ne_zero (by decide) hn

/-- The digits of a number to a base stand for numbers below the base. -/
theorem exists_digitChar_of_mem_toDigits {base n : ℕ} (hbase : 1 < base) {c : Char}
    (h : c ∈ Nat.toDigits base n) : ∃ d, d < base ∧ c = Nat.digitChar d := by
  induction n using Nat.strong_induction_on with
  | _ n ih =>
      rw [Nat.toDigits_eq_if hbase] at h
      split at h
      · next hsmall => exact ⟨n, hsmall, List.mem_singleton.mp h⟩
      · next hlarge =>
          rw [List.mem_append, List.mem_singleton] at h
          obtain hfront | hlast := h
          · exact ih (n / base) (Nat.div_lt_self (by omega) hbase) hfront
          · exact ⟨n % base, Nat.mod_lt n (by omega), hlast⟩

/-! ## Zeros at the end -/

theorem exists_dropTrailing_append (c : Char) (text : List Char) :
    ∃ k, text = dropTrailing c text ++ List.replicate k c := by
  have hfront : text.reverse.takeWhile (· == c) =
      List.replicate (text.reverse.takeWhile (· == c)).length c := by
    refine List.eq_replicate_of_mem fun other hother => ?_
    simpa using List.mem_takeWhile_imp hother
  refine ⟨(text.reverse.takeWhile (· == c)).length, ?_⟩
  calc
    text = (text.reverse.takeWhile (· == c) ++ text.reverse.dropWhile (· == c)).reverse := by simp
    _ = dropTrailing c text ++ (text.reverse.takeWhile (· == c)).reverse := by
      rw [List.reverse_append, dropTrailing]
    _ = dropTrailing c text ++ List.replicate (text.reverse.takeWhile (· == c)).length c := by
      rw [hfront, List.reverse_replicate, List.length_replicate]

theorem getLast?_dropTrailing (c : Char) (text : List Char) : (dropTrailing c text).getLast? ≠ some c := by
  rw [dropTrailing, List.getLast?_reverse]
  intro h
  simpa using Text.head?_dropWhile_eq_some h

/-- What stands before another character is not dropped at the end. -/
theorem mem_dropTrailing_iff {c : Char} {text : List Char} : c ∈ dropTrailing c text ↔
    ∃ front back, text = front ++ c :: back ∧ ∃ other, other ∈ back ∧ other ≠ c := by
  obtain ⟨k, hk⟩ := exists_dropTrailing_append c text
  have hend := getLast?_dropTrailing c text
  constructor
  · intro hmem
    obtain ⟨front, back, hcut⟩ := List.append_of_mem hmem
    rw [hcut, List.getLast?_append, List.getLast?_cons] at hend
    refine ⟨front, back ++ List.replicate k c, ?_, ?_⟩
    · rw [hk, hcut, List.append_assoc, List.cons_append]
    · -- what is kept does not end with the character that is dropped
      cases hlast : back.getLast? with
      | none =>
          rw [hlast] at hend
          exact absurd rfl hend
      | some other =>
          rw [hlast] at hend
          exact ⟨other, List.mem_append_left _ (List.mem_of_getLast? hlast), by simpa using hend⟩
  · rintro ⟨front, back, hcut, other, hother, hne⟩
    have hnot : other ∉ List.replicate k c := fun hmem => hne (List.eq_of_mem_replicate hmem)
    obtain ⟨more, _, hrest⟩ | ⟨more, hkept, hrest⟩ := List.append_eq_append_iff.mp (hk.symm.trans hcut)
    · exact absurd (hrest ▸ List.mem_append_right _ (List.mem_cons_of_mem _ hother)) hnot
    · cases more with
      | nil =>
          rw [List.nil_append] at hrest
          exact absurd (hrest ▸ List.mem_cons_of_mem _ hother) hnot
      | cons first more =>
          rw [List.cons_append, List.cons.injEq] at hrest
          rw [hkept, ← hrest.1]
          exact List.mem_append_right _ List.mem_cons_self

/-! ## Digits around a point -/

/-- The digits of a whole number, none for zero, filled up with zeros at the front. -/
def wholeDigits (least n : ℕ) : List Char :=
  List.leftpad least '0' (if n = 0 then [] else digits n)

section WholeDigits

variable (least n : ℕ)

theorem isDigit_of_mem_wholeDigits {c : Char} (h : c ∈ wholeDigits least n) : c.isDigit = true := by
  rw [wholeDigits, List.leftpad, List.mem_append, List.mem_replicate] at h
  obtain ⟨_, rfl⟩ | h := h
  · rfl
  · split at h
    · cases h
    · exact isDigit_of_mem_digits h

theorem digitsValue_wholeDigits : digitsValue (wholeDigits least n) = n := by
  rw [wholeDigits, digitsValue_leftpad]
  split
  · next hzero => rw [hzero, digitsValue_nil]
  · exact digitsValue_digits n

theorem le_length_wholeDigits : least ≤ (wholeDigits least n).length := by
  rw [wholeDigits, List.length_leftpad]
  exact Nat.le_max_left _ _

/-- More digits than are asked for start with one that is not zero. -/
theorem head?_wholeDigits {least n : ℕ} (h : least < (wholeDigits least n).length) :
    (wholeDigits least n).head? ≠ some '0' := by
  rw [wholeDigits, List.length_leftpad] at h
  rw [wholeDigits, List.leftpad, Nat.sub_eq_zero_of_le (by omega), List.replicate_zero, List.nil_append]
  split
  · nofun
  · next hn => exact head?_digits_ne_zero (Nat.pos_of_ne_zero hn)

end WholeDigits

/-- The digits of a number of decimal places without the zeros at their end, filled up with zeros there. -/
def fractionDigits (least places n : ℕ) : List Char :=
  List.rightpad least '0' (dropTrailing '0' (if places = 0 then [] else paddedDigits places n))

section FractionDigits

variable {least places n : ℕ}

theorem length_placed (h : n < 10 ^ places) :
    (if places = 0 then [] else paddedDigits places n).length = places := by
  split
  · next hzero => exact hzero.symm
  · next hplaces => exact length_paddedDigits (Nat.pos_of_ne_zero hplaces) h

theorem fractionValue_placed (h : n < 10 ^ places) :
    fractionValue (if places = 0 then [] else paddedDigits places n) = n / 10 ^ places := by
  rw [fractionValue, length_placed h]
  congr 2
  split
  · next hzero =>
      subst hzero
      rw [digitsValue_nil]
      omega
  · exact digitsValue_paddedDigits places n

theorem isDigit_of_mem_fractionDigits {c : Char} (h : c ∈ fractionDigits least places n) : c.isDigit = true := by
  rw [fractionDigits, List.rightpad, List.mem_append, List.mem_replicate] at h
  obtain h | ⟨_, rfl⟩ := h
  · obtain ⟨k, hk⟩ := exists_dropTrailing_append '0' (if places = 0 then [] else paddedDigits places n)
    have hmem : c ∈ if places = 0 then [] else paddedDigits places n := by
      rw [hk]
      exact List.mem_append_left _ h
    split at hmem
    · cases hmem
    · exact isDigit_of_mem_paddedDigits hmem
  · rfl

theorem fractionValue_fractionDigits (h : n < 10 ^ places) :
    fractionValue (fractionDigits least places n) = n / 10 ^ places := by
  obtain ⟨k, hk⟩ := exists_dropTrailing_append '0' (if places = 0 then [] else paddedDigits places n)
  rw [fractionDigits, List.rightpad, fractionValue_append_zeros, ← fractionValue_append_zeros _ k, ← hk,
    fractionValue_placed h]

theorem le_length_fractionDigits : least ≤ (fractionDigits least places n).length := by
  rw [fractionDigits, List.length_rightpad]
  exact Nat.le_max_left _ _

theorem length_fractionDigits_le (h : n < 10 ^ places) :
    (fractionDigits least places n).length ≤ max least places := by
  obtain ⟨k, hk⟩ := exists_dropTrailing_append '0' (if places = 0 then [] else paddedDigits places n)
  have hlength := congrArg List.length hk
  rw [length_placed h, List.length_append] at hlength
  rw [fractionDigits, List.length_rightpad]
  omega

theorem placed_zero (places : ℕ) :
    (if places = 0 then [] else paddedDigits places 0) = List.replicate places '0' := by
  cases places with
  | zero => rfl
  | succ places =>
      rw [if_neg places.succ_ne_zero, paddedDigits, List.leftpad, List.replicate_succ']
      rfl

/-- A fraction of zero has the digits that are asked for. -/
theorem fractionDigits_zero (places : ℕ) : fractionDigits 0 places 0 = [] := by
  rw [fractionDigits, placed_zero, dropTrailing, List.reverse_replicate, List.dropWhile_replicate]
  rfl

/-- More digits than are asked for end with one that is not zero. -/
theorem getLast?_fractionDigits (h : least < (fractionDigits least places n).length) :
    (fractionDigits least places n).getLast? ≠ some '0' := by
  rw [fractionDigits, List.length_rightpad] at h
  rw [fractionDigits, List.rightpad, Nat.sub_eq_zero_of_le (by omega), List.replicate_zero, List.append_nil]
  exact getLast?_dropTrailing _ _

/-- A fraction is shown in a number of places if it is a whole number of units of the last of them. -/
theorem length_fractionDigits_le_iff {few : ℕ} (h : n < 10 ^ places) (hleast : least ≤ few) :
    (fractionDigits least places n).length ≤ few ↔ ∃ m : ℕ, (n : ℚ) / 10 ^ places * 10 ^ few = m := by
  have hvalue : fractionValue (fractionDigits least places n) = n / 10 ^ places := fractionValue_fractionDigits h
  have hdigits : ∀ c, c ∈ fractionDigits least places n → c.isDigit = true := fun c => isDigit_of_mem_fractionDigits
  have hlast : least < (fractionDigits least places n).length → (fractionDigits least places n).getLast? ≠ some '0' :=
    getLast?_fractionDigits
  generalize fractionDigits least places n = text at hvalue hdigits hlast ⊢
  rw [← hvalue, fractionValue]
  have hten : (10 : ℚ) ^ text.length ≠ 0 := pow_ne_zero _ (by norm_num)
  constructor
  · intro hfew
    obtain ⟨more, rfl⟩ := Nat.exists_eq_add_of_le hfew
    refine ⟨digitsValue text * 10 ^ more, ?_⟩
    rw [pow_add]
    push_cast
    field_simp
  · rintro ⟨m, hm⟩
    by_contra hmany
    obtain ⟨more, hmore⟩ := Nat.exists_eq_add_of_lt (not_le.mp hmany)
    have hne : text ≠ [] := by
      rw [← List.length_pos_iff]
      omega
    refine not_ten_dvd_digitsValue hdigits hne (hlast (by omega)) ⟨m * 10 ^ more, ?_⟩
    rw [div_mul_eq_mul_div, div_eq_iff hten, hmore, pow_succ, pow_add] at hm
    have hfew : (10 : ℚ) ^ few ≠ 0 := pow_ne_zero _ (by norm_num)
    have hcancel : (digitsValue text : ℚ) = 10 * (m * 10 ^ more) := by
      apply mul_right_cancel₀ hfew
      rw [hm]
      ring
    exact_mod_cast hcancel

end FractionDigits

end Numeric
end Stencil
