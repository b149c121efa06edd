import Stencil.Numeric.Digits
import Stencil.Numeric.Grouping

/-!
# Laying out a number in a field

A field fixes how the text of a number is completed: how its sign is shown, whether its digits are
grouped, how wide it is at least, and where the characters go that fill it up. Filling with zeros is
different from filling with another character, for the zeros become digits and are grouped with them.
-/

namespace Stencil
namespace Numeric

/-- Where the text stands in its field. Under `inner` the filling follows the sign. -/
inductive Align
  | left
  | right
  | center
  | inner
  deriving DecidableEq

namespace Align

/-- The four alignment characters. -/
def ofChar? : Char → Option Align
  | '<' => some left
  | '>' => some right
  | '^' => some center
  | '=' => some inner
  | _ => none

end Align

/-- Which mark a number without a minus sign gets. -/
inductive SignStyle
  | minusOnly
  | plus
  | space
  deriving DecidableEq

namespace SignStyle

/-- The three sign characters. -/
def ofChar? : Char → Option SignStyle
  | '-' => some minusOnly
  | '+' => some plus
  | ' ' => some space
  | _ => none

/-- The sign that is shown. -/
def mark (style : SignStyle) (negative : Bool) : List Char :=
  match negative, style with
  | true, _ => ['-']
  | false, minusOnly => []
  | false, plus => ['+']
  | false, space => [' ']

end SignStyle

/-- The mark between groups of digits, and their size. -/
structure Separator where
  mark : Char
  size : Nat
  deriving DecidableEq

/-- The shape of a field. -/
structure Layout where
  fill : Char := ' '
  align : Align := .right
  sign : SignStyle := .minusOnly
  width : Nat := 0
  separator : Option Separator := none
  zeroFilled : Bool := false
  deriving DecidableEq

namespace Layout

/-- A field that adds nothing, apart from commas between thousands if they are wanted. -/
def plain (withCommas : Bool) : Layout :=
  if withCommas then { separator := some ⟨',', 3⟩ } else {}

/-- The whole digits, grouped, after zeros have been put in front to fill the width. -/
def groupedWhole (layout : Layout) (width : Nat) (whole : List Char) : List Char :=
  if whole.isEmpty then []
  else
    let size := (layout.separator.map Separator.size).getD 0
    let mark := (layout.separator.map Separator.mark).getD ','
    let width := if layout.zeroFilled then width else 0
    grouped size mark (List.leftpad (digitsToFill size width) '0' whole)

/-- A text in its field, behind a head that stays in front of an inner filling. -/
def place (layout : Layout) (head body : List Char) : List Char :=
  let missing := layout.width - (head.length + body.length)
  let filling := List.replicate missing layout.fill
  match layout.align with
  | .left => head ++ body ++ filling
  | .right => filling ++ head ++ body
  | .inner => head ++ filling ++ body
  | .center => filling.take (missing / 2) ++ head ++ body ++ filling.drop (missing / 2)

/-- The full text of a number: sign, mark of the base, digits and the rest, in its field. -/
def number (layout : Layout) (negative : Bool) (baseMark : List Char) (figure : Figure) : List Char :=
  let head := layout.sign.mark negative ++ baseMark
  let width := layout.width - (head.length + figure.rest.length)
  layout.place head (layout.groupedWhole width figure.whole ++ figure.rest)

end Layout

end Numeric
end Stencil
