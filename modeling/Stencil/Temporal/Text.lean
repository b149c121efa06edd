import Stencil.Numeric.Digits
import Stencil.Temporal.Moment
import Stencil.Text.Quoted

/-!
# The text of dates, times and spans

Each temporal value has a plain text, and a written form that shows how the value is made. Parts that
are zero may be left out at the end of a time of day: the microseconds, and in the written form the
seconds as well.
-/

namespace Stencil
namespace Temporal

/-- A number in decimal digits, filled with zeros up to a width. -/
def padded (width n : Nat) : String :=
  String.ofList (Numeric.paddedDigits width n)

/-- The written form of a value that is made from some arguments. -/
def written (maker : String) (arguments : List String) : String :=
  "datetime." ++ maker ++ "(" ++ ", ".intercalate arguments ++ ")"

def numbers (ns : List Nat) : List String :=
  ns.map toString

namespace Date

def text (date : Date) : String :=
  padded 4 date.year ++ "-" ++ padded 2 date.month ++ "-" ++ padded 2 date.day

def literal (date : Date) : String :=
  written "date" (numbers [date.year, date.month, date.day])

end Date

namespace Clock

/-- Hour, minute and second, and the microseconds unless they are zero. -/
def text (clock : Clock) : String :=
  padded 2 clock.hour ++ ":" ++ padded 2 clock.minute ++ ":" ++ padded 2 clock.second ++
    (if clock.micro = 0 then "" else "." ++ padded 6 clock.micro)

/-- The arguments of the written form. -/
def arguments (clock : Clock) : List String :=
  numbers ([clock.hour, clock.minute] ++
    (if clock.micro ≠ 0 then [clock.second, clock.micro]
     else if clock.second ≠ 0 then [clock.second] else []))

end Clock

namespace Span

/-- Days, if there are any, and hours, minutes and seconds. -/
def text (span : Span) : String :=
  let plural := if span.days.natAbs = 1 then "" else "s"
  let front := if span.days = 0 then "" else toString span.days ++ " day" ++ plural ++ ", "
  let seconds := span.seconds
  front ++ toString (seconds / 3600) ++ ":" ++ padded 2 (seconds / 60 % 60) ++ ":" ++
    padded 2 (seconds % 60) ++
    (if span.microseconds = 0 then "" else "." ++ padded 6 span.microseconds)

/-- The written form, with the parts that are not zero. -/
def literal (span : Span) : String :=
  let part := fun (name : String) (n : Int) => if n = 0 then [] else [name ++ "=" ++ toString n]
  let parts := part "days" span.days ++ part "seconds" span.seconds
    ++ part "microseconds" span.microseconds
  written "timedelta" (if parts.isEmpty then ["0"] else parts)

end Span

namespace Zone

/-- The offset with its sign, as far as it is not zero. -/
def offsetText (zone : Zone) : String :=
  let micros := zone.offset.natAbs
  let seconds := micros / microsPerSecond
  (if zone.offset < 0 then "-" else "+") ++ padded 2 (seconds / 3600) ++ ":" ++
    padded 2 (seconds / 60 % 60) ++
    (if micros % 60000000 = 0 then "" else ":" ++ padded 2 (seconds % 60)) ++
    (if micros % 1000000 = 0 then "" else "." ++ padded 6 (micros % 1000000))

/-- The name of a zone; one without a name is called after its offset. -/
def text (zone : Zone) : String :=
  match zone.name with
  | some name => name
  | none => if zone.offset = 0 then "UTC" else "UTC" ++ zone.offsetText

def literal (zone : Zone) : String :=
  if zone.isUniversal then "datetime.timezone.utc"
  else written "timezone" ((⟨zone.offset⟩ : Span).literal :: (zone.name.map Text.quoted).toList)

/-- The zone as a named argument. -/
def argument (zone : Option Zone) : List String :=
  (zone.map fun zone => "tzinfo=" ++ zone.literal).toList

end Zone

namespace TimeOfDay

/-- The time and the offset of its zone. -/
def text (time : TimeOfDay) : String :=
  time.clock.text ++ (time.zone.map Zone.offsetText).getD ""

def literal (time : TimeOfDay) : String :=
  written "time" (time.clock.arguments ++ Zone.argument time.zone)

end TimeOfDay

namespace Moment

/-- The date, the time and the offset of the zone. -/
def text (moment : Moment) : String :=
  moment.date.text ++ " " ++ moment.clock.text ++ (moment.zone.map Zone.offsetText).getD ""

def literal (moment : Moment) : String :=
  written "datetime" (numbers [moment.date.year, moment.date.month, moment.date.day]
    ++ moment.clock.arguments ++ Zone.argument moment.zone)

end Moment

end Temporal
end Stencil
