/-!
# Dates

Dates of the Gregorian calendar, from the first day of the year 1 to the last day of the year 9999. A
date carries the proof that its day exists. Days are counted from the first of them, which is a Monday.
-/

namespace Stencil
namespace Temporal

/-- Every fourth year is a leap year, except for the full centuries that four hundred does not divide. -/
def isLeapYear (year : Nat) : Bool :=
  year % 4 = 0 && (year % 100 ≠ 0 || year % 400 = 0)

def daysInMonth (year month : Nat) : Nat :=
  if month = 2 then (if isLeapYear year then 29 else 28)
  else if month = 4 ∨ month = 6 ∨ month = 9 ∨ month = 11 then 30
  else 31

theorem one_le_daysInMonth (year month : Nat) : 1 ≤ daysInMonth year month := by
  unfold daysInMonth
  split
  · split <;> omega
  · split <;> omega

theorem daysInMonth_le (year month : Nat) : daysInMonth year month ≤ 31 := by
  unfold daysInMonth
  split
  · split <;> omega
  · split <;> omega

def lastYear : Nat := 9999

/-- A day of the calendar. -/
structure Date where
  year : Nat
  month : Nat
  day : Nat
  year_pos : 1 ≤ year
  year_le : year ≤ lastYear
  month_pos : 1 ≤ month
  month_le : month ≤ 12
  day_pos : 1 ≤ day
  day_le : day ≤ daysInMonth year month
  deriving DecidableEq

namespace Date

/-- The date with these numbers, if there is one. -/
def of? (year month day : Nat) : Option Date :=
  if h : (1 ≤ year ∧ year ≤ lastYear) ∧ (1 ≤ month ∧ month ≤ 12) ∧
      1 ≤ day ∧ day ≤ daysInMonth year month then
    some ⟨year, month, day, h.1.1, h.1.2, h.2.1.1, h.2.1.2, h.2.2.1, h.2.2.2⟩
  else none

def first : Date :=
  ⟨1, 1, 1, by decide, by decide, by decide, by decide, by decide, by decide⟩

def last : Date :=
  ⟨lastYear, 12, 31, by decide, by decide, by decide, by decide, by decide, by decide⟩

/-- The date on which a time of day, which has none, is shown by directives. -/
def forTimes : Date :=
  ⟨1900, 1, 1, by decide, by decide, by decide, by decide, by decide, by decide⟩

/-- The day after a date; the last day has none. -/
def next? (date : Date) : Option Date :=
  if day : date.day < daysInMonth date.year date.month then
    some { date with day := date.day + 1, day_pos := by omega, day_le := day }
  else if month : date.month < 12 then
    some { date with
      month := date.month + 1, day := 1
      month_pos := by omega, month_le := month
      day_pos := by omega, day_le := one_le_daysInMonth _ _ }
  else if year : date.year < lastYear then
    some {
      year := date.year + 1, month := 1, day := 1
      year_pos := by omega, year_le := year
      month_pos := by omega, month_le := by omega
      day_pos := by omega, day_le := one_le_daysInMonth _ _ }
  else none

/-- The day before a date; the first day has none. -/
def previous? (date : Date) : Option Date :=
  if day : 1 < date.day then
    some { date with
      day := date.day - 1
      day_pos := by omega, day_le := by have := date.day_le; omega }
  else if month : 1 < date.month then
    some { date with
      month := date.month - 1, day := daysInMonth date.year (date.month - 1)
      month_pos := by omega, month_le := by have := date.month_le; omega
      day_pos := one_le_daysInMonth _ _, day_le := Nat.le_refl _ }
  else if year : 1 < date.year then
    some {
      year := date.year - 1, month := 12, day := daysInMonth (date.year - 1) 12
      year_pos := by omega, year_le := by have := date.year_le; omega
      month_pos := by omega, month_le := by omega
      day_pos := one_le_daysInMonth _ _, day_le := Nat.le_refl _ }
  else none

def daysBeforeYear (year : Nat) : Nat :=
  let past := year - 1
  365 * past + past / 4 - past / 100 + past / 400

/-- The number of days of a year before a month. -/
def daysBeforeMonth (year : Nat) : Nat → Nat
  | 0 | 1 => 0
  | month + 2 => daysBeforeMonth year (month + 1) + daysInMonth year (month + 1)

/-- The number of a day; the first one has number 1. -/
def ordinal (date : Date) : Nat :=
  daysBeforeYear date.year + daysBeforeMonth date.year date.month + date.day

/-- The day of the week, from 0 for Monday to 6 for Sunday. -/
def weekday (date : Date) : Nat :=
  (date.ordinal + 6) % 7

end Date

end Temporal
end Stencil
