import Stencil.Numeric.Binary64

/-!
# The shortest decimal that reads back

The text of a binary number has the fewest digits from which the number is read back, and of these the
digits nearest to it. The decimals that read back form an interval around the number, whose ends belong
to it exactly when the significand is even. For one digit, two digits and so on, the two neighbours of
the number among the decimals of that many digits are tried; seventeen digits always suffice.
-/

namespace Stencil
namespace Numeric

/-- The digits of a positive quotient, rounded to a number of significant places. -/
def significant (places num den : Nat) : Significant :=
  let place := decimalMagnitude num den
  let shift : Int := (places : Int) - place
  let n := roundedQuotient .toEven (num * 10 ^ shift.toNat) (den * 10 ^ (-shift).toNat)
  if n = 10 ^ places then ⟨paddedDigits places (n / 10), place + 1⟩ else ⟨paddedDigits places n, place⟩

namespace Significant

/-- The digits without the zeros at their end; one digit stays. -/
def trimmed (s : Significant) : Significant :=
  { s with digits := s.digits.take 1 ++ dropTrailing '0' (s.digits.drop 1) }

end Significant

/-- The decimals that are read as one binary number, all in the unit of a quarter of its last place:
`centre * unit` is the number itself. -/
structure ReadingInterval where
  lower : Nat
  centre : Nat
  upper : Nat
  closed : Bool
  unitNum : Nat
  unitDen : Nat
  deriving DecidableEq

namespace ReadingInterval

/-- The interval of a finite number. Below a power of two the numbers lie twice as close. -/
def ofFinite (significand : Nat) (exponent : Int) : ReadingInterval where
  lower := 4 * significand - (if significand = 2 ^ (52 : Nat) ∧ -1074 < exponent then 1 else 2)
  centre := 4 * significand
  upper := 4 * significand + 2
  closed := significand % 2 = 0
  unitNum := 2 ^ (exponent - 2).toNat
  unitDen := 2 ^ (2 - exponent).toNat

/-- Whether the decimal `n * 10 ^ exponent` is read as the number. -/
def reads (interval : ReadingInterval) (n : Nat) (exponent : Int) : Bool :=
  let point := n * 10 ^ exponent.toNat * interval.unitDen
  let scale := interval.unitNum * 10 ^ (-exponent).toNat
  if interval.closed then interval.lower * scale ≤ point && point ≤ interval.upper * scale
  else interval.lower * scale < point && point < interval.upper * scale

/-- The nearest decimal with a number of digits that is read as the number. -/
def nearest? (interval : ReadingInterval) (place : Int) (count : Nat) : Option (Nat × Int) :=
  let exponent : Int := place - count
  let num := interval.centre * interval.unitNum * 10 ^ (-exponent).toNat
  let den := interval.unitDen * 10 ^ exponent.toNat
  let near := roundedQuotient .toEven num den
  let far := if near = num / den then near + 1 else num / den
  if interval.reads near exponent then some (near, exponent)
  else if interval.reads far exponent then some (far, exponent)
  else none

end ReadingInterval

/-- The significant digits of `n * 10 ^ exponent`. -/
def Significant.ofScientific (n : Nat) (exponent : Int) : Significant :=
  Significant.trimmed ⟨Numeric.digits n, digitCount n + exponent⟩

/-- The shortest digits that read back as a finite number. -/
def shortest (significand : Nat) (exponent : Int) : Significant :=
  if significand = 0 then ⟨['0'], 1⟩
  else
    let (num, den) := Binary64.quotient significand exponent
    let place := decimalMagnitude num den
    let interval := ReadingInterval.ofFinite significand exponent
    match (List.range 17).findSome? fun i => interval.nearest? place (i + 1) with
    | some (n, e) => Significant.ofScientific n e
    | none => significant 17 num den

end Numeric
end Stencil
