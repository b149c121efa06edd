import Stencil.Fault
import Stencil.Numeric.Digits
import Stencil.Numeric.Rounding

/-!
# Decimal numbers

A decimal number is a sign, a coefficient and an exponent of ten; beside these stand the infinities and
the values that are no number, which may carry digits and may be signaling. A number keeps the exponent
it is given: `1.50` and `1.5` are equal and are written differently.

Arithmetic happens in a context of 28 digits. A result with more is rounded to 28 digits, from half way
to the even neighbour; one that is too large is a fault, and so is every operation on a signaling value.
-/

namespace Stencil
namespace Numeric

/-- A decimal number: `± coefficient * 10 ^ exponent`, an infinity, or no number. -/
inductive Decimal
  | finite (negative : Bool) (coefficient : Nat) (exponent : Int)
  | infinite (negative : Bool)
  | nan (negative signaling : Bool) (payload : Nat)
  deriving DecidableEq

namespace Decimal

/-! ## The context -/

/-- The number of digits that a result of arithmetic may have. -/
def precision : Nat := 28

/-- The largest exponent of a leading digit. -/
def maxExponent : Int := 999999

/-- The smallest exponent of a leading digit of a number that has all its digits. -/
def minExponent : Int := -999999

/-- The smallest exponent of all. -/
def leastExponent : Int := minExponent - (precision - 1 : Nat)

/-- The exponent of the leading digit of `coefficient * 10 ^ exponent`. -/
def leading (coefficient : Nat) (exponent : Int) : Int :=
  exponent + digitCount coefficient - 1

/-- The coefficient that a number gets when its exponent is set to another one. -/
def rescaled (tie : Tie) (coefficient : Nat) (exponent target : Int) : Nat :=
  if target ≤ exponent then coefficient * 10 ^ (exponent - target).toNat
  else
    let dropped := (target - exponent).toNat
    if digitCount coefficient < dropped then 0
    else roundedQuotient tie coefficient (10 ^ dropped)

/-- A coefficient in at most 28 digits, with its exponent. -/
def fitted (coefficient : Nat) (exponent : Int) : Nat × Int :=
  if digitCount coefficient ≤ precision then (coefficient, exponent)
  else
    let target := exponent + ((digitCount coefficient - precision : Nat) : Int)
    let rounded := rescaled .toEven coefficient exponent target
    if digitCount rounded ≤ precision then (rounded, target) else (rounded / 10, target + 1)

/-- The number of the context nearest to an exact result. -/
def settled (negative : Bool) (coefficient : Nat) (exponent : Int) : Except Fault Decimal :=
  if coefficient = 0 then
    pure (finite negative 0 (max leastExponent (min maxExponent exponent)))
  else if leading coefficient exponent < minExponent then
    let target := max exponent leastExponent
    pure (finite negative (rescaled .toEven coefficient exponent target) target)
  else
    let (coefficient, exponent) := fitted coefficient exponent
    if maxExponent < leading coefficient exponent then throw .decimalOverflow
    else pure (finite negative coefficient exponent)

/-- A value that is no number, as the result of an operation: a signaling one is a fault, and the
digits it carries are cut to the precision. -/
def passedOn (negative signaling : Bool) (payload : Nat) : Except Fault Decimal :=
  if signaling then throw .decimalInvalid
  else pure (nan negative false (payload % 10 ^ precision))

/-! ## Operations -/

/-- The exact decimal form of a whole number. -/
def ofInt (n : Int) : Decimal :=
  finite (n < 0) n.natAbs 0

/-- The number without its sign, in the context. -/
def abs : Decimal → Except Fault Decimal
  | finite _ coefficient exponent => settled false coefficient exponent
  | infinite _ => pure (infinite false)
  | nan negative signaling payload => passedOn negative signaling payload

/-- The number times a hundred, in the context. -/
def percent : Decimal → Except Fault Decimal
  | finite negative coefficient exponent => settled negative (100 * coefficient) exponent
  | infinite negative => pure (infinite negative)
  | nan negative signaling payload => passedOn negative signaling payload

/-- Whether a number is less than zero; only numbers can be compared. -/
def isBelowZero : Decimal → Except Fault Bool
  | finite negative coefficient _ => pure (negative && coefficient ≠ 0)
  | infinite negative => pure negative
  | nan _ _ _ => throw .decimalInvalid

/-- The exponent of one unit at a number of decimal places. A unit below the least exponent is taken there
instead, and far more places than there are exponents are a fault. -/
def unitExponent (places : Nat) : Except Fault Int :=
  if 2 * (maxExponent + (precision : Nat)) < places then throw .decimalInvalid
  else pure (max leastExponent (-(places : Int)))

/-- The number rounded to a number of decimal places, half way away from zero. The result must have no
more digits than the context allows, and infinity has no places. -/
def quantized (places : Nat) : Decimal → Except Fault Decimal
  | finite negative coefficient exponent => do
      let target ← unitExponent places
      if coefficient = 0 then return finite negative 0 target
      else if (precision : Int) < digitCount coefficient + (exponent - target) then
        throw .decimalInvalid
      else
        let rounded := rescaled .awayFromZero coefficient exponent target
        if precision < digitCount rounded then throw .decimalInvalid
        else return finite negative rounded target
  | infinite _ => throw .decimalInvalid
  | nan negative signaling payload => passedOn negative signaling payload

/-! ## Text -/

/-- The text of what is no finite number. -/
def specialText? : Decimal → Option (List Char)
  | finite _ _ _ => none
  | infinite _ => some "Infinity".toList
  | nan _ signaling payload =>
      some ((if signaling then ['s'] else []) ++ "NaN".toList ++
        (if payload = 0 then [] else digits payload))

/-- Whether a minus sign is shown. -/
def isNegative : Decimal → Bool
  | finite negative _ _ => negative
  | infinite negative => negative
  | nan negative _ _ => negative

/-- An exponent with its sign. -/
def exponentText (marker : Char) (exponent : Int) : List Char :=
  marker :: (if exponent < 0 then '-' else '+') :: digits exponent.natAbs

/-- The digits of a coefficient with the point after `place` of them; a number that is not written out in
full is followed by an exponent. -/
def pointedAt (coefficient : Nat) (exponent place : Int) (marker : Option Char) : Figure :=
  let ds := digits coefficient
  let full := (ds.length : Int) + exponent
  let power := match marker with
    | some marker => exponentText marker (full - place)
    | none => []
  if place ≤ 0 then
    ⟨['0'], Figure.pointed false (List.replicate place.natAbs '0' ++ ds) ++ power⟩
  else
    ⟨List.rightpad place.toNat '0' (ds.take place.toNat),
      Figure.pointed false (ds.drop place.toNat) ++ power⟩

/-- The plain form of a number. It is written out as long as its exponent is not positive and fewer than
seven zeros would stand before its digits; else it has one digit before the point and an exponent. -/
def plainFigure (coefficient : Nat) (exponent : Int) (marker : Char) : Figure :=
  let full := (digitCount coefficient : Int) + exponent
  if exponent ≤ 0 ∧ -6 < full then pointedAt coefficient exponent full none
  else pointedAt coefficient exponent 1 (some marker)

/-- The plain text of a decimal number. -/
def text (d : Decimal) : List Char :=
  let body := match d with
    | finite _ coefficient exponent => (plainFigure coefficient exponent 'E').text
    | other => (specialText? other).getD []
  (if d.isNegative then ['-'] else []) ++ body

end Decimal

end Numeric
end Stencil
