import Stencil.Numeric.Standard
import Stencil.Numeric.Picture

/-!
# Formatting numbers

A format for numbers is a standard format, else a picture, else a specification.
-/

namespace Stencil
namespace Numeric

/-- A number in a format. -/
def Number.format (number : Number) (format : String) : Except Fault String :=
  let format := format.toList
  String.ofList <$>
    match StandardFormat.read? format with
    | some standard => standard.apply number
    | none =>
        match Picture.read? format with
        | some picture => picture.apply number
        | none => number.formatSpec format

end Numeric
end Stencil
