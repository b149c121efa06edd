import Stencil.Numeric.Digits
import Stencil.Numeric.Rounding

/-!
# Binary numbers of double precision

A finite number is a sign, a significand below `2 ^ 53` and an exponent of two between -1074 and 971.
Numbers are computed exactly as quotients of natural numbers and rounded once to the nearest of these,
from half way to the one with the even significand; beyond the largest of them stands infinity.
-/

namespace Stencil
namespace Numeric

/-- A binary number: `± significand * 2 ^ exponent`, an infinity, or no number. -/
inductive Binary64
  | finite (negative : Bool) (significand : Nat) (exponent : Int)
  | infinite (negative : Bool)
  | nan
  deriving DecidableEq

/-- The largest whole number `k` with `2 ^ k ≤ num / den`, for positive numbers. -/
def binaryMagnitude (num den : Nat) : Int :=
  let k : Int := (num.log2 : Int) - den.log2
  if num * 2 ^ (-k).toNat < den * 2 ^ k.toNat then k - 1 else k

/-- The whole number `p` with `10 ^ (p - 1) ≤ num / den < 10 ^ p`, for positive numbers. -/
def decimalMagnitude (num den : Nat) : Int :=
  let p : Int := (digitCount num : Int) - digitCount den
  if num * 10 ^ (-p).toNat < den * 10 ^ p.toNat then p else p + 1

namespace Binary64

def zero (negative : Bool) : Binary64 :=
  finite negative 0 (-1074)

def maxExponent : Int := 971

/-- The number with a significand of at most `2 ^ 53`. -/
def ofSignificand (negative : Bool) (significand : Nat) (exponent : Int) : Binary64 :=
  let carried := significand = 2 ^ (53 : Nat)
  let significand := if carried then 2 ^ (52 : Nat) else significand
  let exponent := if carried then exponent + 1 else exponent
  if maxExponent < exponent then infinite negative else finite negative significand exponent

/-- The number nearest to `num / den`. -/
def ofQuotient (negative : Bool) (num den : Nat) : Binary64 :=
  if num = 0 then zero negative
  else
    let exponent := max (binaryMagnitude num den - 52) (-1074)
    ofSignificand negative
      (roundedQuotient .toEven (num * 2 ^ (-exponent).toNat) (den * 2 ^ exponent.toNat)) exponent

/-- The number nearest to a whole number; `none` if the whole number is too large. -/
def ofInt? (n : Int) : Option Binary64 :=
  match ofQuotient (n < 0) n.natAbs 1 with
  | finite negative significand exponent => some (finite negative significand exponent)
  | _ => none

/-- The number nearest to `coefficient * 10 ^ exponent`. What lies far outside the range is settled
without computing the power. -/
def ofScientific (negative : Bool) (coefficient : Nat) (exponent : Int) : Binary64 :=
  let magnitude := (digitCount coefficient : Int) + exponent
  if coefficient = 0 || magnitude < -400 then zero negative
  else if 400 < magnitude then infinite negative
  else ofQuotient negative (coefficient * 10 ^ exponent.toNat) (10 ^ (-exponent).toNat)

/-- The magnitude of a finite number as a quotient. -/
def quotient (significand : Nat) (exponent : Int) : Nat × Nat :=
  (significand * 2 ^ exponent.toNat, 2 ^ (-exponent).toNat)

/-- A number times a hundred. -/
def percent : Binary64 → Binary64
  | finite negative significand exponent =>
      let (num, den) := quotient significand exponent
      ofQuotient negative (100 * num) den
  | infinite negative => infinite negative
  | nan => nan

def abs : Binary64 → Binary64
  | finite _ significand exponent => finite false significand exponent
  | infinite _ => infinite false
  | nan => nan

/-- Whether a minus sign is shown. -/
def isNegative : Binary64 → Bool
  | finite negative _ _ => negative
  | infinite negative => negative
  | nan => false

/-- Whether a number is less than zero; a negative zero is not. -/
def isBelowZero : Binary64 → Bool
  | finite negative significand _ => negative && significand ≠ 0
  | infinite negative => negative
  | nan => false

/-- The whole number that equals a number, if there is one. -/
def toInt? : Binary64 → Option Int
  | finite negative significand exponent =>
      let (num, den) := quotient significand exponent
      if num % den = 0 then some (if negative then -(num / den : Nat) else (num / den : Nat)) else none
  | _ => none

end Binary64

end Numeric
end Stencil
