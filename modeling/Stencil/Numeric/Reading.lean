import Stencil.Numeric.Binary64
import Stencil.Numeric.Decimal

/-!
# Reading numbers

The written form of a number: an optional sign, digits with at most one point among them, and an optional
exponent; or one of the words for infinity and for what is no number, in upper or lower case.
-/

namespace Stencil
namespace Numeric

/-- Digits at the start of a text, and what follows them. -/
def spanDigits (text : List Char) : List Char × List Char :=
  text.span Char.isDigit

/-- A sign at the start of a text, and what follows it. -/
def readSign : List Char → Bool × List Char
  | '-' :: rest => (true, rest)
  | '+' :: rest => (false, rest)
  | rest => (false, rest)

/-- The exponent at the end of a number; none at all is zero. -/
def readExponent? : List Char → Option Int
  | [] => some 0
  | marker :: rest =>
      let (negative, rest) := readSign rest
      if (marker = 'e' || marker = 'E') && !rest.isEmpty && rest.all Char.isDigit then
        some (if negative then -(digitsValue rest : Int) else digitsValue rest)
      else none

/-- An unsigned number as coefficient and exponent. -/
def readScientific? (text : List Char) : Option (Nat × Int) :=
  let (whole, rest) := spanDigits text
  let (fraction, rest) := match rest with
    | '.' :: rest => spanDigits rest
    | rest => ([], rest)
  if whole.isEmpty && fraction.isEmpty then none
  else (readExponent? rest).map fun exponent =>
    (digitsValue (whole ++ fraction), exponent - fraction.length)

/-- A word without regard to case. -/
def isWord (word : String) (text : List Char) : Bool :=
  text.map Char.toLower = word.toList

/-- The digits that a value which is no number carries behind its name. -/
def readPayload? (name : String) (text : List Char) : Option Nat :=
  let (word, rest) := text.splitAt name.length
  if isWord name word && rest.all Char.isDigit then some (digitsValue rest) else none

/-- Reads a decimal number. -/
def Decimal.ofText? (text : List Char) : Option Decimal :=
  let (negative, text) := readSign text
  if isWord "inf" text || isWord "infinity" text then some (.infinite negative)
  else match readPayload? "nan" text, readPayload? "snan" text with
    | some payload, _ => some (.nan negative false payload)
    | none, some payload => some (.nan negative true payload)
    | none, none => (readScientific? text).map fun (coefficient, exponent) =>
        .finite negative coefficient exponent

/-- Reads a binary number, rounded to the nearest one. -/
def Binary64.ofText? (text : List Char) : Option Binary64 :=
  let (negative, text) := readSign text
  if isWord "inf" text || isWord "infinity" text then some (.infinite negative)
  else if isWord "nan" text then some .nan
  else (readScientific? text).map fun (coefficient, exponent) =>
    .ofScientific negative coefficient exponent

end Numeric
end Stencil
