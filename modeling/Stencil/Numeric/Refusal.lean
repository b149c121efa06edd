import Stencil.Text.Quoted

/-!
# Refusals

The reasons why a format specification cannot be read, or why a value does not take it, and their
wording. Some of them name the type of the value, which only those know who have the value.
-/

namespace Stencil
namespace Numeric

/-- Why a specification is refused. -/
inductive Refusal
  | malformed (spec : String)
  | unknownType (type : Char)
  | numberTooLong
  | precisionMissing
  | twoSeparators
  | separatorUnfit (mark type : Char)
  | textWithSign
  | textWithSpace
  | textWithZeroSign
  | textWithAlternate
  | textWithInnerAlign
  | integerWithPrecision
  | integerWithZeroSign
  | characterWithSign
  | characterWithAlternate
  | precisionTooBig
  | decimalUnfit
  | pictureUnfit
  | pictureUnreadable
  deriving DecidableEq

namespace Refusal

/-- A type as it is shown: outside the visible part of ASCII by its code point. -/
def typeText (type : Char) : String :=
  if 0x20 < type.toNat ∧ type.toNat < 0x80 then String.singleton type
  else String.ofList ('\\' :: 'x' :: Text.hexadecimal 0 type.toNat)

/-- The wording of a refusal, for a value of the type with this name. -/
def text (typeName : String) : Refusal → String
  | malformed spec =>
      "Invalid format specifier '" ++ spec ++ "' for object of type '" ++ typeName ++ "'"
  | unknownType type =>
      "Unknown format code '" ++ typeText type ++ "' for object of type '" ++ typeName ++ "'"
  | numberTooLong => "Too many decimal digits in format string"
  | precisionMissing => "Format specifier missing precision"
  | twoSeparators => "Cannot specify both ',' and '_'."
  | separatorUnfit mark type =>
      "Cannot specify '" ++ String.singleton mark ++ "' with '" ++ typeText type ++ "'."
  | textWithSign => "Sign not allowed in string format specifier"
  | textWithSpace => "Space not allowed in string format specifier"
  | textWithZeroSign => "Negative zero coercion (z) not allowed in string format specifier"
  | textWithAlternate => "Alternate form (#) not allowed in string format specifier"
  | textWithInnerAlign => "'=' alignment not allowed in string format specifier"
  | integerWithPrecision => "Precision not allowed in integer format specifier"
  | integerWithZeroSign =>
      "Negative zero coercion (z) not allowed in integer format specifier"
  | characterWithSign => "Sign not allowed with integer format specifier 'c'"
  | characterWithAlternate => "Alternate form (#) not allowed with integer format specifier 'c'"
  | precisionTooBig => "precision too big"
  | decimalUnfit => "invalid format string"
  | pictureUnfit => "[<class 'decimal.InvalidOperation'>]"
  | pictureUnreadable => "[<class 'decimal.ConversionSyntax'>]"

end Refusal

end Numeric
end Stencil
