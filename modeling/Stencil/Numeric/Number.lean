import Stencil.Numeric.IntegerText
import Stencil.Numeric.DecimalSpec

/-!
# Numbers of all kinds

A number is a truth value, a whole number, a binary number or a decimal number. Truth values count as one
and zero, except that they are shown by their names.
-/

namespace Stencil
namespace Numeric

/-- The kinds of numbers that a format applies to. -/
inductive Number
  | boolean (b : Bool)
  | integer (n : Int)
  | binary (x : Binary64)
  | decimal (d : Decimal)
  deriving DecidableEq

namespace Number

/-- The name of a truth value. -/
def booleanText (b : Bool) : List Char :=
  if b then "True".toList else "False".toList

/-- The plain text of a number, which only whole numbers with too many digits do not have. -/
def text : Number → Except Fault (List Char)
  | boolean b => pure (booleanText b)
  | integer n => integerText n
  | binary x => pure x.text
  | decimal d => pure d.text

/-- A number under a specification. -/
def formatSpec (spec : List Char) : Number → Except Fault (List Char)
  | boolean b => if spec.isEmpty then pure (booleanText b) else formatInteger spec b.toNat
  | integer n => formatInteger spec n
  | binary x => x.format spec
  | decimal d => d.format spec

/-- A number in a style, or, if it is decimal, under the specification that stands for that style. A whole
number is first taken to the nearest binary number. -/
def styled (layout : Layout) (style : Style) (capitals : Bool) (spec : Decimal.Spec) :
    Number → Except Fault (List Char)
  | boolean b => do return (← toBinary b.toNat).render layout style capitals
  | integer n => do return (← toBinary n).render layout style capitals
  | binary x => pure (x.render layout style capitals)
  | decimal d => pure (d.formatSpec spec)

/-- A number with a fixed number of places, and commas between its thousands if they are wanted. -/
def fixed (commas : Bool) (places : Nat) : Number → Except Fault (List Char) :=
  styled (.plain commas) (.fixed places) false { commas, precision := some places, form := .fixed }

/-- A number with an exponent. -/
def exponential (capitals : Bool) (places : Nat) : Number → Except Fault (List Char) :=
  styled {} (.exponential places) capitals
    { precision := some places, form := .exponential, capitals }

/-- A number with a number of significant digits. -/
def general (capitals : Bool) (count : Nat) : Number → Except Fault (List Char) :=
  styled {} (.general count false) capitals { precision := some count, form := .plain, capitals }

def abs : Number → Except Fault Number
  | boolean b => pure (integer b.toNat)
  | integer n => pure (integer n.natAbs)
  | binary x => pure (binary x.abs)
  | decimal d => do return decimal (← d.abs)

/-- Whether a number is less than zero. -/
def isBelowZero : Number → Except Fault Bool
  | boolean _ => pure false
  | integer n => pure (n < 0)
  | binary x => pure x.isBelowZero
  | decimal d => d.isBelowZero

/-- A number times a hundred. -/
def percent : Number → Except Fault Number
  | boolean b => pure (integer (100 * b.toNat))
  | integer n => pure (integer (100 * n))
  | binary x => pure (binary x.percent)
  | decimal d => do return decimal (← d.percent)

end Number

end Numeric
end Stencil
