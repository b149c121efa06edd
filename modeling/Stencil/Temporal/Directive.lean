import Stencil.Temporal.Pattern
import Stencil.Temporal.Text

/-!
# Directives

A specification for a date or a time is a text with directives, each of which starts with a per cent sign:

`%[flags][width][E or O]letter`

The letter names a part of the moment. The flags `_`, `-` and `0` choose what fills a number, `^` asks for
capitals and `#` for the other case; a part that is shorter than the width is filled at the left. A
directive with a letter that has no meaning shows itself.

Microseconds, offset and name of the zone (`%f`, `%z`, `%Z`) are put into the specification first, and only
in their plain form.
-/

namespace Stencil
namespace Temporal

open Numeric (paddedDigits)

namespace Date

/-- The number of days of the year before a date. -/
def dayOfYear (date : Date) : Nat :=
  daysBeforeMonth date.year date.month + date.day - 1

/-- The number of the week of the year, from 0 on, where `weekday` counts from the first day of a week. -/
def weekOfYear (date : Date) (weekday : Nat) : Nat :=
  (date.dayOfYear + 7 - weekday) / 7

/-- The year and the number of the week that a date belongs to by the Thursday of its week. -/
def thursdayWeek (date : Date) : Nat × Nat :=
  let thursday : Int := date.dayOfYear - date.weekday + 3
  let daysInYear := if isLeapYear date.year then 366 else 365
  if thursday < 0 then
    let before := if isLeapYear (date.year - 1) then 366 else 365
    (date.year - 1, (thursday + before).toNat / 7 + 1)
  else if (daysInYear : Int) ≤ thursday then (date.year + 1, 1)
  else (date.year, thursday.toNat / 7 + 1)

end Date

/-- A directive, together with the text by which it is written. -/
structure Directive where
  written : List Char
  filling : Option Char := none
  capitals : Bool := false
  otherCase : Bool := false
  width : Nat := 0
  modifier : Option Char := none
  letter : Option Char := none
  deriving DecidableEq

/-- What a directive stands for: a number of at least some digits, which is filled with zeros or with
spaces, a text, a specification of its own, or nothing at all. -/
inductive Part
  | number (digits : Nat) (n : Int)
  | spaced (digits : Nat) (n : Int)
  | text (shown : List Char)
  | hidden
  | composed (spec : String)
  | unknown
  deriving DecidableEq

namespace Directive

def isFlag (c : Char) : Bool :=
  c ∈ ['_', '-', '0', '^', '#']

/-- Reads a directive from behind its per cent sign. -/
def read (text : List Char) : Directive × List Char :=
  let flags := text.takeWhile isFlag
  let afterFlags := text.dropWhile isFlag
  let width := afterFlags.takeWhile Char.isDigit
  let afterWidth := afterFlags.dropWhile Char.isDigit
  let modifier := afterWidth.head?.filter fun c => c = 'E' || c = 'O'
  let rest := if modifier.isSome then afterWidth.drop 1 else afterWidth
  let directive : Directive := {
    written := '%' :: text.take (text.length - (rest.length - 1))
    filling := (flags.filter fun c => c ≠ '^' && c ≠ '#').getLast?
    capitals := flags.contains '^'
    otherCase := flags.contains '#'
    width := Numeric.digitsValue width
    modifier
    letter := rest.head? }
  (directive, rest.drop 1)

/-- Whether a letter may stand behind a modifier. -/
def allowsModifier (modifier letter : Char) : Bool :=
  if modifier = 'E' then
    letter ∈ ['c', 'C', 'n', 'p', 'P', 'r', 'R', 's', 't', 'T', 'u', 'x', 'X', 'y', 'Y', 'z', 'Z', '%']
  else letter ∉ ['a', 'A', 'c', 'D', 'F', 'x', 'X', 'Y']

/-- The part of a moment that a letter names. -/
def part (moment : Moment) (letter : Char) : Part :=
  let date := moment.date
  let clock := moment.clock
  let dayName := dayNames.getD date.weekday ""
  let monthName := monthNames.getD (date.month - 1) ""
  match letter with
  | 'a' => .text (dayName.toList.take 3)
  | 'A' => .text dayName.toList
  | 'b' | 'h' => .text (monthName.toList.take 3)
  | 'B' => .text monthName.toList
  | 'c' => .composed "%a %b %e %H:%M:%S %Y"
  | 'C' => .number 1 (date.year / 100)
  | 'd' => .number 2 date.day
  | 'D' | 'x' => .composed "%m/%d/%y"
  | 'e' => .spaced 2 date.day
  | 'F' => .composed "%Y-%m-%d"
  | 'g' => .number 2 (date.thursdayWeek.1 % 100)
  | 'G' => .number 1 date.thursdayWeek.1
  | 'H' => .number 2 clock.hour
  | 'I' => .number 2 (twelveHour clock.hour)
  | 'j' => .number 3 (date.dayOfYear + 1)
  | 'k' => .spaced 2 clock.hour
  | 'l' => .spaced 2 (twelveHour clock.hour)
  | 'm' => .number 2 date.month
  | 'M' => .number 2 clock.minute
  | 'n' => .text ['\n']
  | 'p' => .text (if clock.hour < 12 then ['A', 'M'] else ['P', 'M'])
  | 'P' => .text (if clock.hour < 12 then ['a', 'm'] else ['p', 'm'])
  | 'r' => .composed "%I:%M:%S %p"
  | 'R' => .composed "%H:%M"
  | 's' =>
      .spaced 1 (((date.ordinal : Int) - 719163) * 86400 + (clock.micros / microsPerSecond : Nat))
  | 'S' => .number 2 clock.second
  | 't' => .text ['\t']
  | 'T' | 'X' => .composed "%H:%M:%S"
  | 'u' => .number 1 (date.weekday + 1)
  | 'U' => .number 2 (date.weekOfYear ((date.weekday + 1) % 7))
  | 'V' => .number 2 date.thursdayWeek.2
  | 'w' => .number 1 ((date.weekday + 1) % 7)
  | 'W' => .number 2 (date.weekOfYear date.weekday)
  | 'y' => .number 2 (date.year % 100)
  | 'Y' => .number 1 date.year
  | 'z' => .hidden
  | 'Z' => .text []
  | '%' => .text ['%']
  | _ => .unknown

/-- A number in the digits that a directive asks for, with spaces or zeros in front. -/
def showNumber (directive : Directive) (filling : Char) (digits : Nat) (n : Int) : List Char :=
  let sign := if n < 0 then ['-'] else []
  let width := max digits directive.width
  match directive.filling.getD filling with
  | '-' => sign ++ Numeric.digits n.natAbs
  | '_' => List.leftpad width ' ' (sign ++ Numeric.digits n.natAbs)
  | _ => sign ++ paddedDigits (width - sign.length) n.natAbs

/-- The other case: small letters for the halves of the day, capitals for names. -/
def inOtherCase (letter : Char) (shown : List Char) : List Char :=
  if letter ∈ ['a', 'A', 'b', 'B', 'h'] then shown.map Char.toUpper
  else if letter = 'p' then shown.map Char.toLower
  else shown

/-- A text in the case that a directive asks for. -/
def inCase (directive : Directive) (letter : Char) (shown : List Char) : List Char :=
  if letter = 'P' then shown
  else if directive.otherCase && letter = 'p' then inOtherCase letter shown
  else if directive.capitals then shown.map Char.toUpper
  else if directive.otherCase then inOtherCase letter shown
  else shown

/-- A part that is filled up to the width. -/
def fill (directive : Directive) (shown : List Char) : List Char :=
  List.leftpad directive.width (if directive.filling = some '0' then '0' else ' ') shown

/-- What a directive stands for. -/
def meaning (directive : Directive) (moment : Moment) : Part :=
  match directive.modifier, directive.letter with
  | _, none => .unknown
  | none, some letter =>
      if letter = 'Z' && directive.filling = some '-' then .hidden else part moment letter
  | some modifier, some letter =>
      if allowsModifier modifier letter then part moment letter else .unknown

end Directive

namespace Moment

/-- Shows a moment by the directives of a specification. `depth` says how often a directive may stand for
a specification, and every character of a specification takes one unit of `fuel` at most. -/
def showDirectives (moment : Moment) (depth fuel : Nat) (spec : List Char) : List Char :=
  match fuel, spec with
  | 0, _ | _, [] => []
  | fuel + 1, '%' :: rest =>
      let (directive, rest) := Directive.read rest
      let letter := directive.letter.getD '%'
      let shown := match directive.meaning moment, depth with
        | .number digits n, _ => directive.fill (directive.showNumber '0' digits n)
        | .spaced digits n, _ => directive.fill (directive.showNumber '_' digits n)
        | .text shown, _ => directive.fill (directive.inCase letter shown)
        | .hidden, _ => []
        | .composed spec, depth + 1 => directive.fill
            (directive.inCase letter (moment.showDirectives depth spec.length spec.toList))
        | _, _ =>
            let written := directive.written
            directive.fill (if directive.capitals then written.map Char.toUpper else written)
      shown ++ moment.showDirectives depth fuel rest
  | fuel + 1, c :: rest => c :: moment.showDirectives depth fuel rest
termination_by (depth, fuel)

/-- Puts microseconds, offset and name of the zone into a specification. -/
def insertZone (moment : Moment) : List Char → List Char
  | '%' :: 'f' :: rest => paddedDigits 6 moment.clock.micro ++ moment.insertZone rest
  | '%' :: 'z' :: rest =>
      (((moment.zone.map Zone.offsetText).getD "").toList.filter (· ≠ ':')) ++ moment.insertZone rest
  | '%' :: 'Z' :: rest =>
      (((moment.zone.map Zone.text).getD "").toList.flatMap fun c => if c = '%' then [c, c] else [c])
        ++ moment.insertZone rest
  | '%' :: c :: rest => '%' :: c :: moment.insertZone rest
  | c :: rest => c :: moment.insertZone rest
  | [] => []

/-- A moment under a specification with directives; a character with code point zero ends it. -/
def formatDirectives (moment : Moment) (spec : List Char) : List Char :=
  let spec := moment.insertZone (spec.takeWhile (· ≠ '\x00'))
  moment.showDirectives 1 spec.length spec

end Moment

end Temporal
end Stencil
