import Stencil.Numeric.Shortest
import Stencil.Numeric.Spec

/-!
# The text of binary numbers

A binary number is written with a fixed number of places, with an exponent, with a number of significant
digits, or with the shortest digits that read back. All forms are rounded from the exact value, from half
way to the even digit.
-/

namespace Stencil
namespace Numeric

/-- How the digits of a binary number are chosen and written. `pointed` asks for a digit behind the point
where no exponent is written. -/
inductive Style
  | fixed (places : Nat)
  | exponential (places : Nat)
  | general (count : Nat) (pointed : Bool)
  | shortest
  deriving DecidableEq

namespace Binary64

/-- The significant digits of a finite number, rounded to `count` places. -/
def significantDigits (count significand : Nat) (exponent : Int) : Significant :=
  if significand = 0 then ⟨List.replicate count '0', 1⟩
  else
    let (num, den) := quotient significand exponent
    significant count num den

/-- A number is written out unless its leading digit lies behind the fourth place or beyond `limit`. -/
def general (s : Significant) (limit : Int) (pointed keepPoint : Bool) (marker : Char) : Figure :=
  if -4 < s.place ∧ s.place ≤ limit then s.positional keepPoint pointed.toNat
  else s.exponential keepPoint marker

/-- The text of the magnitude of a finite number. `alternate` keeps the point and all digits. -/
def magnitudeFigure (style : Style) (alternate : Bool) (marker : Char) (significand : Nat)
    (exponent : Int) : Figure :=
  match style with
  | .fixed places =>
      let (num, den) := quotient significand exponent
      Figure.fixed alternate places (roundedQuotient .toEven (num * 10 ^ places) den)
  | .exponential places =>
      (significantDigits (places + 1) significand exponent).exponential alternate marker
  | .general count pointed =>
      let count := max count 1
      let s := significantDigits count significand exponent
      general (if alternate then s else s.trimmed) ((count : Int) - pointed.toNat) pointed alternate marker
  | .shortest => general (Numeric.shortest significand exponent) 16 true alternate marker

def showsZero (style : Style) (significand : Nat) (exponent : Int) : Bool :=
  match style with
  | .fixed places =>
      let (num, den) := quotient significand exponent
      roundedQuotient .toEven (num * 10 ^ places) den = 0
  | _ => significand = 0

/-- Capital letters where a style is written in capitals. -/
def inCase (capitals : Bool) (text : List Char) : List Char :=
  if capitals then text.map Char.toUpper else text

/-- The text of the magnitude of any number. -/
def figure (style : Style) (alternate capitals : Bool) : Binary64 → Figure
  | finite _ significand exponent =>
      magnitudeFigure style alternate (if capitals then 'E' else 'e') significand exponent
  | infinite _ => ⟨[], inCase capitals "inf".toList⟩
  | nan => ⟨[], inCase capitals "nan".toList⟩

def render (layout : Layout) (style : Style) (capitals : Bool) (x : Binary64) : List Char :=
  layout.number x.isNegative [] (x.figure style false capitals)

/-- The plain text of a number: the shortest one that reads back. -/
def text (x : Binary64) : List Char :=
  x.render {} .shortest false

/-! ## Under a specification -/

/-- Precisions above this one are refused. -/
def maxPrecision : Nat := 2 ^ (31 : Nat) - 1

/-- The style of a type of number, and whether it is written in capitals. -/
def styleOf (type : Option Char) (precision : Option Nat) : Except Fault (Style × Bool) :=
  let places := precision.getD 6
  match type with
  | none | some '\x00' => pure (match precision with
      | some count => (.general count true, false)
      | none => (.shortest, false))
  | some 'e' => pure (.exponential places, false)
  | some 'E' => pure (.exponential places, true)
  | some 'f' | some '%' => pure (.fixed places, false)
  | some 'F' => pure (.fixed places, true)
  | some 'g' | some 'n' => pure (.general places false, false)
  | some 'G' => pure (.general places false, true)
  | some type => throw (.specRefused (.unknownType type))

/-- A number under a specification that has been read. -/
def formatSpec (spec : Spec) (x : Binary64) : Except Fault (List Char) := do
  let (style, capitals) ← styleOf spec.type spec.precision
  if maxPrecision < spec.precision.getD 0 then throw (.specRefused .precisionTooBig)
  else
    let asPercent := spec.type = some '%'
    let x := if asPercent then x.percent else x
    let isZero := match x with
      | finite _ significand exponent => showsZero style significand exponent
      | _ => false
    let figure := x.figure style spec.alternate capitals
    let figure := if asPercent then { figure with rest := figure.rest ++ ['%'] } else figure
    pure (spec.layout.number (x.isNegative && !(spec.dropZeroSign && isZero)) [] figure)

/-- A number under a specification; the empty one gives the plain text. -/
def format (spec : List Char) (x : Binary64) : Except Fault (List Char) := do
  if spec.isEmpty then return x.text
  formatSpec (← Spec.read .right none spec) x

end Binary64

end Numeric
end Stencil
