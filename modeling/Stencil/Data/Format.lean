import Stencil.Data.Text
import Stencil.Numeric.Format
import Stencil.Temporal.Directive

/-!
# Formatting values

Dates, times and moments take date patterns, numbers take number formats, and members of enumerations take
the specifications for text. A value with rules of its own may take any format. The empty format gives
every other value its text, and all other formats are refused.

Nothing, texts, bytes and truth values are never formatted.
-/

namespace Stencil

namespace Value

/-- A text under a specification. -/
def formatText (shown spec : String) : Except Fault String :=
  (String.ofList <$> Numeric.Spec.formatText shown.toList spec.toList).mapError
    (Fault.ofType (text shown).typeName)

/-- A value as a moment that directives show; a time of day has a date of its own here. -/
def directedMoment? : Value → Option Temporal.Moment
  | time t => some { date := Temporal.Date.forTimes, clock := t.clock, zone := t.zone }
  | value => value.moment?

/-- A value under a specification of a type that has none of its own. -/
def formatOther (value : Value) (spec : String) : Except Fault String :=
  if spec = "" then value.toText
  else match value.directedMoment? with
    | some m => pure (String.ofList (m.formatDirectives spec.toList))
    | none => throw (.specUnsupported value.fullTypeName)

/-- A value under a specification. -/
def formatSpec (value : Value) (spec : String) : Except Fault String :=
  match value with
  | text s => formatText s spec
  | member typeName name _ => formatText (typeName ++ "." ++ name) spec
  | special _ _ (.custom rule) => rule spec
  | value => match value.number? with
      | some number =>
          (String.ofList <$> number.formatSpec spec.toList).mapError (Fault.ofType value.typeName)
      | none => value.formatOther spec

/-- A value in a format of its type. -/
def format (value : Value) (format : String) : Except Fault String :=
  match value.moment?, value.number? with
  | some m, _ => m.format format
  | none, some number => number.format format
  | none, none => value.formatSpec format

/-- The values that are never formatted. -/
def ignoresFormats : Value → Bool
  | nothing | text _ | bytes _ | boolean _ => true
  | _ => false

/-- The text of a value in a template; nothing has an empty text. -/
def plainText : Value → Except Fault String
  | nothing => pure ""
  | value => value.toText

end Value

end Stencil
