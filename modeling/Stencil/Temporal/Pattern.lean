import Stencil.Fault
import Stencil.Numeric.Digits
import Stencil.Temporal.Moment

/-!
# Date patterns

A pattern is read as a sequence of items: runs of one specifier letter, text between quotation marks,
characters after a backslash, per cent signs, which show nothing, and all other characters, which show
themselves. A quotation mark that is never closed quotes the rest, and a backslash at the end shows
nothing.

A pattern of a single character is not read in this way; it names a standard pattern.
-/

namespace Stencil
namespace Temporal

open Numeric (paddedDigits dropTrailing)

/-- The letters that stand for a part of a moment. -/
def isSpecifier (c : Char) : Bool :=
  c ∈ ['d', 'f', 'F', 'g', 'h', 'H', 'K', 'm', 'M', 's', 't', 'y', 'z']

def isQuotationMark (c : Char) : Bool :=
  c = '\'' || c = '"'

inductive Item
  | run (letter : Char) (count : Nat)
  | quoted (mark : Char) (text : List Char)
  | unclosed (mark : Char) (text : List Char)
  | escaped (c : Char)
  | loneBackslash
  | percent
  | bare (c : Char)
  deriving DecidableEq

namespace Item

def write : Item → List Char
  | run letter count => List.replicate count letter
  | quoted mark text => mark :: text ++ [mark]
  | unclosed mark text => mark :: text
  | escaped c => ['\\', c]
  | loneBackslash => ['\\']
  | percent => ['%']
  | bare c => [c]

end Item

theorem length_dropWhile_le_length (p : Char → Bool) (text : List Char) :
    (text.dropWhile p).length ≤ text.length :=
  (List.dropWhile_suffix p).length_le

/-- The items of a pattern. -/
def items : List Char → List Item
  | [] => []
  | c :: rest =>
      if isQuotationMark c then
        match _h : rest.dropWhile (· ≠ c) with
        | [] => [.unclosed c rest]
        | _ :: after => .quoted c (rest.takeWhile (· ≠ c)) :: items after
      else if c = '\\' then
        match rest with
        | [] => [.loneBackslash]
        | x :: after => .escaped x :: items after
      else if c = '%' then .percent :: items rest
      else if isSpecifier c then
        .run c (1 + (rest.takeWhile (· = c)).length) :: items (rest.dropWhile (· = c))
      else .bare c :: items rest
termination_by text => text.length
decreasing_by
  · have shorter := length_dropWhile_le_length (· ≠ c) rest
    rw [_h] at shorter
    simp only [List.length_cons] at shorter ⊢
    omega
  · simp only [List.length_cons]
    omega
  · exact Nat.lt_succ_self _
  · have shorter := length_dropWhile_le_length (· = c) rest
    simp only [List.length_cons]
    omega
  · exact Nat.lt_succ_self _

/-! ## Names and numbers -/

def dayNames : List String :=
  ["Monday", "Tuesday", "Wednesday", "Thursday", "Friday", "Saturday", "Sunday"]

def monthNames : List String :=
  ["January", "February", "March", "April", "May", "June", "July", "August", "September", "October",
    "November", "December"]

/-- A number in one digit or two, as long as its run. -/
def shortNumber (count n : Nat) : List Char :=
  paddedDigits (min count 2) n

/-- A day or a month by its number, its short name or its name. -/
def numberOrName (count n : Nat) (name : String) : List Char :=
  if count ≤ 2 then shortNumber count n
  else if count = 3 then name.toList.take 3
  else name.toList

/-- The hour on a clock of twelve hours. -/
def twelveHour (hour : Nat) : Nat :=
  if hour % 12 = 0 then 12 else hour % 12

/-- The decimals of the second, of which there are seven. -/
def secondDecimals (clock : Clock) : List Char :=
  paddedDigits 6 clock.micro ++ ['0']

/-- The offset of a zone: hours without or with a leading zero, or hours and minutes. -/
def offsetDigits (count : Nat) (zone : Option Zone) : List Char :=
  match zone with
  | none => []
  | some zone =>
      let minutes := zone.minutes
      let hours := minutes.natAbs / 60
      (if minutes < 0 then '-' else '+') ::
        if count = 1 then paddedDigits 1 hours
        else if count = 2 then paddedDigits 2 hours
        else paddedDigits 2 hours ++ ':' :: paddedDigits 2 (minutes.natAbs % 60)

namespace Moment

/-- What a run of one specifier letter shows. -/
def showRun (moment : Moment) (letter : Char) (count : Nat) : List Char :=
  let date := moment.date
  let clock := moment.clock
  match letter with
  | 'd' => numberOrName count date.day (dayNames.getD date.weekday "")
  | 'M' => numberOrName count date.month (monthNames.getD (date.month - 1) "")
  | 'y' => if count ≤ 2 then shortNumber count (date.year % 100) else paddedDigits count date.year
  | 'h' => shortNumber count (twelveHour clock.hour)
  | 'H' => shortNumber count clock.hour
  | 'm' => shortNumber count clock.minute
  | 's' => shortNumber count clock.second
  | 'f' => (secondDecimals clock).take count
  | 'F' => dropTrailing '0' ((secondDecimals clock).take count)
  | 't' => (if clock.hour < 12 then ['A', 'M'] else ['P', 'M']).take count
  | 'g' => ['A', '.', 'D', '.']
  | 'z' => offsetDigits count moment.zone
  | 'K' => if moment.zone.any Zone.isUniversal then ['Z'] else offsetDigits 3 moment.zone
  | _ => []

def showItem (moment : Moment) : Item → List Char
  | .run letter count => moment.showRun letter count
  | .quoted _ text => text
  | .unclosed _ text => text
  | .escaped c => [c]
  | .loneBackslash => []
  | .percent => []
  | .bare c => [c]

def showPattern (moment : Moment) (pattern : List Char) : List Char :=
  (items pattern).flatMap moment.showItem

/-- The pattern that a single character stands for. -/
def standardPattern? : Char → Option String
  | 'd' => some "MM/dd/yyyy"
  | 'D' => some "dddd, dd MMMM yyyy"
  | 'f' => some "dddd, dd MMMM yyyy HH:mm"
  | 'F' => some "dddd, dd MMMM yyyy HH:mm:ss"
  | 'g' => some "MM/dd/yyyy HH:mm"
  | 'G' => some "MM/dd/yyyy HH:mm:ss"
  | 'M' | 'm' => some "MMMM dd"
  | 'Y' | 'y' => some "yyyy MMMM"
  | 't' => some "HH:mm"
  | 'T' => some "HH:mm:ss"
  | 's' => some "yyyy'-'MM'-'dd'T'HH':'mm':'ss"
  | 'u' => some "yyyy'-'MM'-'dd HH':'mm':'ss'Z'"
  | 'o' | 'O' => some "yyyy'-'MM'-'dd'T'HH':'mm':'ss'.'fffffffK"
  | _ => none

/-- A moment in a standard pattern. The pattern `u` shows it in universal time. -/
def formatStandard (moment : Moment) (letter : Char) : Except Fault (List Char) :=
  match standardPattern? letter with
  | none => throw (.unknownDatePattern (String.singleton letter))
  | some pattern =>
      if letter = 'u' then
        match moment.toUniversal? with
        | some universal => pure (universal.showPattern pattern.toList)
        | none => throw .outOfCalendar
      else pure (moment.showPattern pattern.toList)

/-- A moment in a pattern or a standard pattern. -/
def format (moment : Moment) (pattern : String) : Except Fault String :=
  String.ofList <$>
    match pattern.toList with
    | [] => throw .emptyDatePattern
    | [letter] => moment.formatStandard letter
    | pattern => pure (moment.showPattern pattern)

end Moment

end Temporal
end Stencil
