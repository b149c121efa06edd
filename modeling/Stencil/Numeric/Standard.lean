import Stencil.Numeric.Number

/-!
# Standard number formats

A standard format is one letter with a precision of at most two digits:

* `C` currency, `F` fixed, `N` fixed with commas, `P` per cent, all with two places by default;
* `D` decimal and `X` hexadecimal digits of whole numbers, with at least as many digits as the precision;
* `E` exponent in at least three digits, with six places by default;
* `G` significant digits and `R` the plain text.

The letter may be small. It decides the case of `E`, `G` and `X`.
-/

namespace Stencil
namespace Numeric

/-- The letters of the standard formats. -/
inductive StandardLetter
  | currency
  | decimal
  | exponential
  | fixed
  | general
  | grouped
  | percent
  | plain
  | hexadecimal
  deriving DecidableEq

namespace StandardLetter

/-- The format that a capital letter stands for. -/
def ofCapital? : Char → Option StandardLetter
  | 'C' => some currency
  | 'D' => some decimal
  | 'E' => some exponential
  | 'F' => some fixed
  | 'G' => some general
  | 'N' => some grouped
  | 'P' => some percent
  | 'R' => some plain
  | 'X' => some hexadecimal
  | _ => none

end StandardLetter

/-- A standard format as it is written: what its letter stands for, the letter, and the precision. -/
structure StandardFormat where
  form : StandardLetter
  letter : Char
  precision : Option Nat
  deriving DecidableEq

namespace StandardFormat

/-- Reads a standard format. -/
def read? : List Char → Option StandardFormat
  | [] => none
  | letter :: precision => do
      let form ← StandardLetter.ofCapital? letter.toUpper
      if precision.length ≤ 2 then
        let n ← Text.decimalNumber? precision
        some ⟨form, letter, if precision.isEmpty then none else some n⟩
      else none

/-- The currency sign of no country in particular. -/
def currencySign : Char := '¤'

/-- Whether the letter is a capital. -/
def capitals (format : StandardFormat) : Bool :=
  format.letter.isUpper

/-- The precision of the formats with places, which have two by default. -/
def places (format : StandardFormat) : Nat :=
  format.precision.getD 2

/-- A text whose exponent has at least three digits. -/
def widenExponent (text : List Char) : List Char :=
  let marker := if text.contains 'E' then 'E' else 'e'
  match text.span (· ≠ marker) with
  | (mantissa, marker :: sign :: exponent) =>
      mantissa ++ marker :: sign :: List.leftpad 3 '0' exponent
  | (mantissa, rest) => mantissa ++ rest

/-- The whole number that a format for whole numbers is applied to. -/
def requireInteger (format : StandardFormat) : Number → Except Fault Int
  | .boolean b => pure b.toNat
  | .integer n => pure n
  | .binary _ | .decimal _ => throw (.integerRequired format.letter)

/-- The currency sign stands between the minus sign and the digits. -/
def formatCurrency (format : StandardFormat) (number : Number) : Except Fault (List Char) := do
  let body ← (← number.abs).fixed true format.places
  let below ← number.isBelowZero
  return (if below then ['-'] else []) ++ currencySign :: body

/-- Decimal digits; the sign does not count towards the width. -/
def formatDecimal (format : StandardFormat) (n : Int) : Except Fault (List Char) := do
  let body ← decimalDigits n.natAbs
  return (if n < 0 then ['-'] else []) ++ List.leftpad (format.precision.getD 0) '0' body

/-- Hexadecimal digits, which negative numbers do not have. -/
def formatHexadecimal (format : StandardFormat) (n : Int) : Except Fault (List Char) :=
  if n < 0 then throw .negativeHexadecimal
  else pure (List.leftpad (format.precision.getD 0) '0'
    (Binary64.inCase format.capitals (Nat.toDigits 16 n.natAbs)))

/-- A number in a standard format. -/
def apply (format : StandardFormat) (number : Number) : Except Fault (List Char) :=
  match format.form with
  | .currency => format.formatCurrency number
  | .decimal => do format.formatDecimal (← format.requireInteger number)
  | .exponential => do
      return widenExponent (← number.exponential format.capitals (format.precision.getD 6))
  | .fixed => number.fixed false format.places
  | .general => match format.precision with
      | none => number.text
      | some count => number.general format.capitals count
  | .grouped => number.fixed true format.places
  | .percent => do return (← (← number.percent).fixed true format.places) ++ [' ', '%']
  | .plain => number.text
  | .hexadecimal => do format.formatHexadecimal (← format.requireInteger number)

end StandardFormat

end Numeric
end Stencil
