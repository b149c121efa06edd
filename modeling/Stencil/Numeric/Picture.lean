import Stencil.Numeric.Number

/-!
# Number pictures

A picture shows how a number is to look: in `#,##0.00 kg` the middle part, its *core*, stands for the
digits, and what is around it is copied. In the core a `0` is a place that is always filled, a `#` a place
that may stay empty, a comma before the point asks for grouped thousands, and the point separates the
whole part from the fraction. A per cent sign around the core multiplies the number by a hundred. A text
with digits around its core is no picture.

The number is rounded once, to as many places as the fraction has, from half way away from zero.
-/

namespace Stencil
namespace Numeric

/-- A picture, cut at its core and at the point in it. The commas of the fraction are left out. -/
structure Picture where
  before : List Char
  whole : List Char
  fraction : List Char
  after : List Char
  deriving DecidableEq

namespace Picture

/-- The places for digits. -/
def isPlace (c : Char) : Bool :=
  c = '0' || c = '#'

/-- The characters that continue a core. -/
def continuesCore (c : Char) : Bool :=
  isPlace c || c = ',' || c = '.'

/-- A run of core characters up to the last place in it. -/
def upToLastPlace (run : List Char) : List Char :=
  (run.reverse.dropWhile fun c => !isPlace c).reverse

/-- A text cut before and after its core, which is the first run that starts with a place, or with a
point and ends with a place. -/
def splitCore? : List Char → Option (List Char × List Char × List Char)
  | [] => none
  | c :: text =>
      if isPlace c then
        some ([], c :: text.takeWhile continuesCore, text.dropWhile continuesCore)
      else
        let run := upToLastPlace (text.takeWhile continuesCore)
        if c = '.' && !run.isEmpty then some ([], c :: run, text.drop run.length)
        else (splitCore? text).map fun (before, core, after) => (c :: before, core, after)

/-- Reads a picture. -/
def read? (text : List Char) : Option Picture :=
  match splitCore? text with
  | none => none
  | some (before, core, after) =>
      if before.any Text.isDigitSign || after.any Text.isDigitSign then none
      else
        let (whole, fraction) := core.span (· ≠ '.')
        some ⟨before, whole, (fraction.drop 1).filter (· ≠ ','), after⟩

/-- Whether thousands are grouped; commas at the end of the whole part do not count. -/
def isGrouped (picture : Picture) : Bool :=
  (dropTrailing ',' picture.whole).contains ','

/-- The places that the whole part always fills. -/
def leastWhole (picture : Picture) : Nat :=
  picture.whole.count '0'

/-- The places that the fraction always fills. -/
def leastFraction (picture : Picture) : Nat :=
  picture.fraction.count '0'

/-- The places to which a number is rounded. -/
def places (picture : Picture) : Nat :=
  picture.fraction.length

/-- Whether the number is shown in hundredths. -/
def isPercent (picture : Picture) : Bool :=
  picture.before.contains '%' || picture.after.contains '%'

/-- The whole digits of a number, without a lone zero, filled up to the places. -/
def wholeText (picture : Picture) (n : Nat) : List Char :=
  let filled := List.leftpad picture.leastWhole '0' (if n = 0 then [] else digits n)
  if picture.isGrouped then thousands filled else filled

/-- The digits of a fraction, given in units of the last of its places: those that are always shown, and
more up to the last one that is not zero. -/
def fractionText (picture : Picture) (places n : Nat) : List Char :=
  let all := if places = 0 then [] else paddedDigits places n
  List.rightpad picture.leastFraction '0' (dropTrailing '0' all)

/-- The digits of the number `n / 10 ^ places`. -/
def body (picture : Picture) (places n : Nat) : List Char :=
  picture.wholeText (n / 10 ^ places) ++
    Figure.pointed false (picture.fractionText places (n % 10 ^ places))

/-- The number as a decimal one, which is read from its text. A binary number is taken by its shortest
digits, a whole number must have a text at all, and the name of a truth value reads as no number. -/
def toDecimal : Number → Except Fault Decimal
  | .boolean _ => throw .decimalUnreadable
  | .integer n => do
      let _ ← integerText n
      return .ofInt n
  | .binary (.finite negative significand exponent) =>
      let s := shortest significand exponent
      pure (.finite negative (digitsValue s.digits) (s.place - s.digits.length))
  | .binary (.infinite negative) => pure (.infinite negative)
  | .binary .nan => pure (.nan false false 0)
  | .decimal d => pure d

/-- The number that is shown: in hundredths if the picture asks for it, and rounded to its places. -/
def rounded (picture : Picture) (number : Number) : Except Fault Decimal := do
  let d ← toDecimal number
  let d ← if picture.isPercent then d.percent else pure d
  d.quantized picture.places

/-- A rounded number in the picture. Zero has no sign. -/
def display (picture : Picture) : Decimal → Except Fault (List Char)
  | .finite negative n exponent =>
      let sign := if negative && n ≠ 0 then ['-'] else []
      pure (picture.before ++ sign ++ picture.body (-exponent).toNat n ++ picture.after)
  | _ => throw .decimalInvalid

/-- A number in a picture. What the decimal context refuses does not fit the picture. -/
def apply (picture : Picture) (number : Number) : Except Fault (List Char) :=
  match picture.rounded number >>= picture.display with
  | .error .decimalInvalid => throw (.specRefused .pictureUnfit)
  | .error .decimalUnreadable => throw (.specRefused .pictureUnreadable)
  | result => result

end Picture

end Numeric
end Stencil
