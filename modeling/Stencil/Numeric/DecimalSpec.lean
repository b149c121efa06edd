import Stencil.Numeric.Decimal
import Stencil.Numeric.Spec

/-!
# Decimal numbers under a specification

Decimal numbers have a specification of their own:

`[[fill]align][sign][0][width][,][.precision][type]`

It differs from that of other numbers in small ways: only ASCII digits are read, a zero in front of the
width may not stand beside an alignment, and there is no underscore and no mark of a base. A number keeps
its own digits unless a precision is given.

The mark `z`, which takes the sign from zero, is cut out before the rest is read. It stands behind an
alignment and a sign, each of which may be missing; so an alignment or a sign may also follow it.
-/

namespace Stencil
namespace Numeric
namespace Decimal

/-- How a decimal number is written. -/
inductive Form
  | plain
  | exponential
  | fixed
  | percent
  deriving DecidableEq

/-- The parts of a specification for decimal numbers. -/
structure Spec where
  fill : Char := ' '
  align : Align := .right
  sign : SignStyle := .minusOnly
  dropZeroSign : Bool := false
  zeroFilled : Bool := false
  width : Nat := 0
  commas : Bool := false
  precision : Option Nat := none
  form : Form := .plain
  capitals : Bool := true
  deriving DecidableEq

namespace Spec

/-- Widths and precisions from here on are refused. -/
def numberLimit : Nat := 10 ^ (18 : Nat)

/-- A number in ASCII digits at the start of a text, if there is one, and what follows it. -/
def readNumber (text : List Char) : Except Fault (Option Nat × List Char) :=
  let (run, rest) := text.span Char.isDigit
  if run.isEmpty then pure (none, rest)
  else if digitsValue run < numberLimit then pure (some (digitsValue run), rest)
  else throw (.specRefused .decimalUnfit)

/-- The form that a type stands for, and whether it is written in capitals. -/
def formOf? (commas : Bool) : List Char → Option (Form × Bool)
  | [] | ['G'] => some (.plain, true)
  | ['g'] => some (.plain, false)
  | ['n'] => if commas then none else some (.plain, false)
  | ['N'] => if commas then none else some (.plain, true)
  | ['e'] => some (.exponential, false)
  | ['E'] => some (.exponential, true)
  | ['f'] => some (.fixed, false)
  | ['F'] => some (.fixed, true)
  | ['%'] => some (.percent, false)
  | _ => none

/-- How many characters the alignment at the start of a text takes, with its filling. Characters beyond
ASCII that follow the first one belong to the filling. Here and for the sign, a character with code point
zero passes as well. -/
def alignLength (text : List Char) : Nat :=
  let isMark := fun c => (Align.ofChar? c).isSome || c = '\x00'
  let filling := 1 + ((text.drop 1).takeWhile fun c => 0x80 ≤ c.toNat).length
  if (text.drop filling).head?.any isMark then filling + 1
  else if text.head?.any isMark then 1
  else 0

/-- How many characters the sign at the start of a text takes. -/
def signLength (text : List Char) : Nat :=
  if text.head?.any fun c => (SignStyle.ofChar? c).isSome || c = '\x00' then 1 else 0

/-- Whether a text has the mark `z`, and the text without it. -/
def cutZeroMark (text : List Char) : Bool × List Char :=
  let start := alignLength text
  let start := start + signLength (text.drop start)
  if (text.drop start).head? = some 'z' then (true, text.take start ++ text.drop (start + 1))
  else (false, text)

/-- Reads a specification. A character with code point zero may be the filling; elsewhere it ends the
specification. -/
def read (text : List Char) : Except Fault Spec := do
  let (dropZeroSign, text) := cutZeroMark text
  let startsWithZero := text.head? = some '\x00'
  let ((fill, align, _), text) := Numeric.Spec.readAlign text
  if startsWithZero && align.isNone then throw (.specRefused .decimalUnfit)
  let text := text.takeWhile (· ≠ '\x00')
  let (sign, text) := Numeric.Spec.readSignStyle text
  let (zeroFilled, text) := Numeric.Spec.readFlag '0' text
  if zeroFilled && align.isSome then throw (.specRefused .decimalUnfit)
  if text.head? = some '0' then throw (.specRefused .decimalUnfit)
  let (width, text) ← readNumber text
  let (commas, text) := Numeric.Spec.readFlag ',' text
  let (point, text) := Numeric.Spec.readFlag '.' text
  let (precision, text) ← if point then readNumber text else pure (none, text)
  if point && precision.isNone then throw (.specRefused .decimalUnfit)
  match formOf? commas text with
  | none => throw (.specRefused .decimalUnfit)
  | some (form, capitals) => pure {
      fill := if zeroFilled then '0' else fill
      align := if zeroFilled then .inner else align.getD .right
      sign := sign.getD .minusOnly
      dropZeroSign, zeroFilled, width := width.getD 0, commas, precision, form, capitals }

/-- The field of a number under a specification. -/
def layout (spec : Spec) : Layout where
  fill := spec.fill
  align := spec.align
  sign := spec.sign
  width := spec.width
  separator := if spec.commas then some ⟨',', 3⟩ else none
  zeroFilled := spec.zeroFilled

/-- The field of what is no finite number, which takes spaces in place of zeros and has no groups. -/
def specialLayout (spec : Spec) : Layout :=
  if spec.zeroFilled then
    { spec.layout with fill := ' ', align := .right, zeroFilled := false, separator := none }
  else { spec.layout with separator := none }

end Spec

/-- A coefficient other than zero rounded to a number of significant digits, or filled up to it. -/
def toSignificant (count coefficient : Nat) (exponent : Int) : Nat × Int :=
  let target := exponent + digitCount coefficient - count
  let rounded := rescaled .toEven coefficient exponent target
  if digitCount rounded ≤ count then (rounded, target) else (rounded / 10, target + 1)

/-- A coefficient rounded to a number of places. -/
def toPlaces (places coefficient : Nat) (exponent : Int) : Nat × Int :=
  (rescaled .toEven coefficient exponent (-(places : Int)), -(places : Int))

/-- The digits that a form with a precision shows. -/
def shown (form : Form) (precision : Option Nat) (coefficient : Nat) (exponent : Int) : Nat × Int :=
  match form, precision with
  | .plain, some count =>
      if max count 1 < digitCount coefficient then toSignificant (max count 1) coefficient exponent
      else (coefficient, exponent)
  | .exponential, some places =>
      if coefficient = 0 then (coefficient, exponent)
      else toSignificant (places + 1) coefficient exponent
  | .fixed, some places => toPlaces places coefficient exponent
  | .percent, some places => toPlaces places coefficient (exponent + 2)
  | .percent, none => (coefficient, exponent + 2)
  | _, none => (coefficient, exponent)

/-- The text of a magnitude whose digits have been chosen. A zero with a precision keeps that many places
before its exponent. -/
def magnitudeFigure (form : Form) (capitals : Bool) (precision : Option Nat) (coefficient : Nat)
    (exponent : Int) : Figure :=
  let marker := if capitals then 'E' else 'e'
  let full := fun exponent : Int => (digitCount coefficient : Int) + exponent
  match form with
  | .plain => plainFigure coefficient exponent marker
  | .exponential =>
      let place : Int := match precision with
        | some places => if coefficient = 0 then 1 - places else 1
        | none => 1
      pointedAt coefficient exponent place (some marker)
  | .fixed | .percent =>
      let exponent := if coefficient = 0 then min exponent 0 else exponent
      let figure := pointedAt coefficient exponent (full exponent) none
      if form = .percent then { figure with rest := figure.rest ++ ['%'] } else figure

/-- Whether zero loses its sign. A number that is rounded to zero counts as zero, except in the fixed form
in capitals. -/
def losesSign (spec : Spec) (given shown : Nat) : Bool :=
  spec.dropZeroSign && (if spec.form = .fixed && spec.capitals then given = 0 else shown = 0)

/-- A number under a specification that has been read. -/
def formatSpec (spec : Spec) : Decimal → List Char
  | finite negative given exponent =>
      let (coefficient, exponent) := shown spec.form spec.precision given exponent
      spec.layout.number (negative && !losesSign spec given coefficient) []
        (magnitudeFigure spec.form spec.capitals spec.precision coefficient exponent)
  | special =>
      let body := (specialText? special).getD []
      let body := if spec.form = .percent then body ++ ['%'] else body
      spec.specialLayout.number special.isNegative [] ⟨[], body⟩

/-- A number under a specification; the empty one gives the plain text. -/
def format (spec : List Char) (d : Decimal) : Except Fault (List Char) := do
  if spec.isEmpty then return d.text
  return formatSpec (← Spec.read spec) d

end Decimal
end Numeric
end Stencil
