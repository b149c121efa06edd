/-!
# Decimal digits of natural numbers

The digits of a number, without leading zeros, the number that digits write, and the two ways to put a
point among digits.
-/

namespace Stencil

/-- Powers of natural numbers are those of the core library, also beside other libraries. -/
scoped instance (priority := high) powNat : Pow Nat Nat :=
  instPowNat

namespace Numeric

/-- The decimal digits of a number; zero has one digit. -/
def digits (n : Nat) : List Char :=
  Nat.toDigits 10 n

/-- The number that decimal digits write. -/
def digitsValue (digits : List Char) : Nat :=
  digits.foldl (fun n c => 10 * n + (c.toNat - '0'.toNat)) 0

/-- How many decimal digits a number has. -/
def digitCount (n : Nat) : Nat :=
  (digits n).length

/-- The most decimal digits that a whole number is written with. -/
def maxDigits : Nat := 4300

/-- The digits of a number, filled with zeros at the front up to a width. -/
def paddedDigits (width n : Nat) : List Char :=
  List.leftpad width '0' (digits n)

/-- A text without the copies of a character at its end. -/
def dropTrailing (c : Char) (text : List Char) : List Char :=
  (text.reverse.dropWhile (· == c)).reverse

/-- The text of an unsigned number, cut where its whole part ends. What is no number in digits has an
empty whole part. -/
structure Figure where
  whole : List Char
  rest : List Char
  deriving DecidableEq

namespace Figure

/-- The whole text. -/
def text (figure : Figure) : List Char :=
  figure.whole ++ figure.rest

/-- The fraction with its point; without digits the point is dropped unless it is asked for. -/
def pointed (keepPoint : Bool) (fraction : List Char) : List Char :=
  if fraction.isEmpty && !keepPoint then [] else '.' :: fraction

/-- The number `n / 10 ^ places`, with all of its places. -/
def fixed (keepPoint : Bool) (places n : Nat) : Figure where
  whole := digits (n / 10 ^ places)
  rest := pointed keepPoint (if places = 0 then [] else paddedDigits places (n % 10 ^ places))

end Figure

/-- A positive number given by its significant digits: the digits follow the point of `0.…`, and the
number is that fraction times `10 ^ place`. -/
structure Significant where
  digits : List Char
  place : Int
  deriving DecidableEq

namespace Significant

/-- The number with its digits around a point, and at least `least` of them behind it. -/
def positional (s : Significant) (keepPoint : Bool) (least : Nat) : Figure where
  whole := if s.place ≤ 0 then ['0'] else List.rightpad s.place.toNat '0' (s.digits.take s.place.toNat)
  rest :=
    let fraction :=
      if s.place ≤ 0 then List.replicate s.place.natAbs '0' ++ s.digits
      else s.digits.drop s.place.toNat
    Figure.pointed keepPoint (List.rightpad least '0' fraction)

/-- A signed exponent in at least two digits. -/
def exponentText (marker : Char) (exponent : Int) : List Char :=
  marker :: (if exponent < 0 then '-' else '+') :: paddedDigits 2 exponent.natAbs

/-- The number with one digit before the point and an exponent. -/
def exponential (s : Significant) (keepPoint : Bool) (marker : Char) : Figure where
  whole := s.digits.take 1
  rest := Figure.pointed keepPoint (s.digits.drop 1) ++ exponentText marker (s.place - 1)

end Significant

end Numeric
end Stencil
