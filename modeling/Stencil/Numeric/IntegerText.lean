import Stencil.Numeric.BinaryText

/-!
# The text of whole numbers

Whole numbers are written to the bases two, eight, ten and sixteen, or as the character with that code
point. The types for fractions first take the nearest binary number, which fails for numbers that are too
large.

To the base ten a number is written in at most `maxDigits` digits; a longer one has no text. The other bases
are powers of two, and there is no such limit for them.
-/

namespace Stencil
namespace Numeric

/-- The decimal digits of a number, if they are not too many. -/
def decimalDigits (n : Nat) : Except Fault (List Char) :=
  if maxDigits < digitCount n then throw .tooManyDigits else pure (digits n)

/-- All digits of a whole number, behind its sign. -/
def signedDigits (n : Int) : List Char :=
  (if n < 0 then ['-'] else []) ++ digits n.natAbs

/-- The plain text of a whole number. The sign does not count towards the limit. -/
def integerText (n : Int) : Except Fault (List Char) := do
  return (if n < 0 then ['-'] else []) ++ (← decimalDigits n.natAbs)

theorem decimalDigits_of_le {n : Nat} (h : digitCount n ≤ maxDigits) : decimalDigits n = .ok (digits n) :=
  if_neg (Nat.not_lt.mpr h)

theorem decimalDigits_of_lt {n : Nat} (h : maxDigits < digitCount n) :
    decimalDigits n = .error .tooManyDigits :=
  if_pos h

theorem integerText_of_le {n : Int} (h : digitCount n.natAbs ≤ maxDigits) :
    integerText n = .ok (signedDigits n) := by
  rw [integerText, decimalDigits_of_le h]
  rfl

theorem integerText_of_lt {n : Int} (h : maxDigits < digitCount n.natAbs) :
    integerText n = .error .tooManyDigits := by
  rw [integerText, decimalDigits_of_lt h]
  rfl

/-- A type of whole number: its base, the mark of the base, and whether its digits are capitals. -/
structure Base where
  base : Nat
  mark : List Char
  capitals : Bool
  deriving DecidableEq

namespace Base

/-- The base that a type stands for. -/
def ofType? : Option Char → Option Base
  | some 'b' => some ⟨2, ['0', 'b'], false⟩
  | some 'o' => some ⟨8, ['0', 'o'], false⟩
  | some 'x' => some ⟨16, ['0', 'x'], false⟩
  | some 'X' => some ⟨16, ['0', 'X'], true⟩
  | none | some 'd' | some 'n' => some ⟨10, [], false⟩
  | some _ => none

/-- The digits of a number to a base. -/
def digits (base : Base) (n : Nat) : Except Fault (List Char) :=
  if base.base = 10 then decimalDigits n
  else pure (Binary64.inCase base.capitals (Nat.toDigits base.base n))

end Base

/-- The character with a code point; it takes neither sign nor mark. -/
def formatCodePoint (spec : Spec) (n : Int) : Except Fault (List Char) :=
  if spec.sign.isSome then throw (.specRefused .characterWithSign)
  else if spec.alternate then throw (.specRefused .characterWithAlternate)
  else if n < 0 || 0x10FFFF < n then throw .notACodePoint
  else pure (spec.layout.number false [] ⟨[], [Char.ofNat n.toNat]⟩)

/-- The digits of a number to a base, in the field of a specification. -/
def formatDigits (spec : Spec) (base : Base) (n : Int) : Except Fault (List Char) := do
  let whole ← base.digits n.natAbs
  return spec.layout.number (n < 0) (if spec.alternate then base.mark else []) ⟨whole, []⟩

/-- Where whole numbers are written in full, there is neither a precision nor a zero with a sign. -/
def requireWhole (spec : Spec) : Except Fault Unit :=
  if spec.precision.isSome then throw (.specRefused .integerWithPrecision)
  else if spec.dropZeroSign then throw (.specRefused .integerWithZeroSign)
  else pure ()

/-- The binary number nearest to a whole number. -/
def toBinary (n : Int) : Except Fault Binary64 :=
  match Binary64.ofInt? n with
  | some x => pure x
  | none => throw .tooLargeForBinary

/-- A whole number under a specification; the empty one gives the plain text. -/
def formatInteger (spec : List Char) (n : Int) : Except Fault (List Char) :=
  if spec.isEmpty then integerText n
  else do
    let spec ← Spec.read .right (some 'd') spec
    if spec.type.any (· ∈ ['e', 'E', 'f', 'F', 'g', 'G', '%']) then
      Binary64.formatSpec spec (← toBinary n)
    else if spec.type = some 'c' then do
      requireWhole spec
      formatCodePoint spec n
    else match Base.ofType? spec.type with
      | some base => do
          requireWhole spec
          formatDigits spec base n
      | none => throw (.specRefused (.unknownType (spec.type.getD 'd')))

end Numeric
end Stencil
