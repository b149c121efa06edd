import Stencil.Temporal.Date

/-!
# Times of day, zones and moments

A clock shows a time of day down to the microsecond. A zone is a fixed offset from universal time of less
than a day, which may have a name. A moment is a date and a clock, with or without a zone; a span is a
number of microseconds.
-/

namespace Stencil
namespace Temporal

def microsPerSecond : Nat := 1000000

def microsPerDay : Nat := 86400 * microsPerSecond

structure Clock where
  hour : Nat
  minute : Nat
  second : Nat
  micro : Nat
  hour_lt : hour < 24
  minute_lt : minute < 60
  second_lt : second < 60
  micro_lt : micro < 1000000
  deriving DecidableEq

namespace Clock

/-- The time of day with these numbers, if there is one. -/
def of? (hour minute second micro : Nat) : Option Clock :=
  if h : (hour < 24 ∧ minute < 60) ∧ second < 60 ∧ micro < 1000000 then
    some ⟨hour, minute, second, micro, h.1.1, h.1.2, h.2.1, h.2.2⟩
  else none

def midnight : Clock :=
  ⟨0, 0, 0, 0, by decide, by decide, by decide, by decide⟩

def last : Clock :=
  ⟨23, 59, 59, 999999, by decide, by decide, by decide, by decide⟩

/-- The microseconds since midnight. -/
def micros (clock : Clock) : Nat :=
  ((clock.hour * 60 + clock.minute) * 60 + clock.second) * 1000000 + clock.micro

/-- The time of day that a number of microseconds after a midnight falls on. -/
def ofMicros (n : Nat) : Clock where
  hour := n / 3600000000 % 24
  minute := n / 60000000 % 60
  second := n / 1000000 % 60
  micro := n % 1000000
  hour_lt := Nat.mod_lt _ (by decide)
  minute_lt := Nat.mod_lt _ (by decide)
  second_lt := Nat.mod_lt _ (by decide)
  micro_lt := Nat.mod_lt _ (by decide)

theorem micros_lt (clock : Clock) : clock.micros < microsPerDay := by
  have h := clock.hour_lt
  have m := clock.minute_lt
  have s := clock.second_lt
  have u := clock.micro_lt
  simp only [micros, microsPerDay, microsPerSecond]
  omega

theorem ofMicros_micros (clock : Clock) : ofMicros clock.micros = clock := by
  rcases clock with ⟨hour, minute, second, micro, h, m, s, u⟩
  simp only [ofMicros, micros, mk.injEq]
  omega

end Clock

/-- A fixed offset from universal time, in microseconds, of less than a day. -/
structure Zone where
  offset : Int
  name : Option String := none
  offset_lt : offset.natAbs < microsPerDay
  deriving DecidableEq

namespace Zone

/-- The zone with this offset, if it is less than a day. -/
def of? (offset : Int) (name : Option String) : Option Zone :=
  if h : offset.natAbs < microsPerDay then some ⟨offset, name, h⟩ else none

def universal : Zone :=
  ⟨0, none, by decide⟩

/-- Whether a zone is universal time itself, and not a named zone with the same offset. -/
def isUniversal (zone : Zone) : Bool :=
  zone.offset = 0 && zone.name.isNone

/-- The farthest zone to the west that is a whole number of minutes away. -/
def westmost : Zone :=
  ⟨-86340000000, none, by decide⟩

/-- The farthest zone to the east that is a whole number of minutes away. -/
def eastmost : Zone :=
  ⟨86340000000, none, by decide⟩

/-- The offset in minutes. Fractions of a second are cut off first; then it is rounded down. -/
def minutes (zone : Zone) : Int :=
  (zone.offset.tdiv microsPerSecond).fdiv 60

end Zone

/-- A time of day with or without a zone. -/
structure TimeOfDay where
  clock : Clock
  zone : Option Zone := none
  deriving DecidableEq

/-- The microseconds from midnight in universal time, which may lie in the day before or after. A time
without a zone counts as one in universal time. -/
def TimeOfDay.instant (time : TimeOfDay) : Int :=
  time.clock.micros - (time.zone.map Zone.offset).getD 0

/-- A date and a time of day, with or without a zone. -/
structure Moment where
  date : Date
  clock : Clock
  zone : Option Zone := none
  deriving DecidableEq

namespace Moment

/-- The moment at which a date starts. -/
def ofDate (date : Date) : Moment where
  date := date
  clock := Clock.midnight

/-- A time of day on the first date. -/
def ofTime (time : TimeOfDay) : Moment where
  date := Date.first
  clock := time.clock
  zone := time.zone

/-- The same moment in universal time; a moment without a zone is left as it is. There is none if the
date would fall outside the calendar. -/
def toUniversal? (moment : Moment) : Option Moment :=
  match moment.zone with
  | none => some moment
  | some zone =>
      let micros : Int := moment.clock.micros - zone.offset
      let date? :=
        if micros < 0 then moment.date.previous?
        else if (microsPerDay : Int) ≤ micros then moment.date.next?
        else some moment.date
      date?.map fun date =>
        ⟨date, Clock.ofMicros (micros % microsPerDay).toNat, some Zone.universal⟩

/-- The instant of a moment: the microseconds from the start of the calendar in universal time. A moment
without a zone counts as one in universal time. -/
def instant (moment : Moment) : Int :=
  ((moment.date.ordinal : Int) - 1) * microsPerDay + moment.clock.micros
    - (moment.zone.map Zone.offset).getD 0

end Moment

structure Span where
  micros : Int
  deriving DecidableEq

namespace Span

/-- The span of some days, seconds and microseconds. -/
def of (days seconds micros : Int) : Span :=
  ⟨days * microsPerDay + seconds * microsPerSecond + micros⟩

/-- The full days, rounded down. -/
def days (span : Span) : Int :=
  span.micros / microsPerDay

def seconds (span : Span) : Nat :=
  (span.micros % microsPerDay).toNat / microsPerSecond

def microseconds (span : Span) : Nat :=
  (span.micros % microsPerSecond).toNat

def maxDays : Nat := 999999999

def longest : Span :=
  of maxDays 86399 999999

def longestBack : Span :=
  of (-(maxDays : Int)) 0 0

def day : Span :=
  of 1 0 0

def microsecond : Span :=
  of 0 0 1

end Span

end Temporal
end Stencil
