import Stencil.Temporal.Moment
import Mathlib.Order.Nat

/-!
# The days of the calendar in order

Days are numbered in the order of their years, months and days (`Date.rank_lt_rank_iff`), without a gap: the next day
has the next number, and only the last day has none behind it (`Date.next?_cases`).

A moment with a zone has a universal time, which is the same instant, unless that instant lies outside the calendar
(`Moment.toUniversal?_cases`).
-/

namespace Stencil
namespace Temporal

/-! ## Years and months -/

namespace Date

theorem daysBeforeMonth_succ (year : Nat) {month : Nat} (h : 1 ≤ month) :
    daysBeforeMonth year (month + 1) = daysBeforeMonth year month + daysInMonth year month := by
  cases month with
  | zero => cases h
  | succ month => rfl

/-- All the days of a month come before the months behind it. -/
theorem daysBeforeMonth_add_le (year : Nat) {month other : Nat} (hmonth : 1 ≤ month) (h : month < other) :
    daysBeforeMonth year month + daysInMonth year month ≤ daysBeforeMonth year other := by
  induction other with
  | zero => cases h
  | succ other ih =>
      rw [daysBeforeMonth_succ year (by omega)]
      obtain rfl | hlt := Nat.eq_or_lt_of_le (Nat.le_of_lt_succ h)
      · exact le_rfl
      · exact (ih hlt).trans (Nat.le_add_right _ _)

theorem daysBeforeMonth_thirteen (year : Nat) :
    daysBeforeMonth year 13 = if isLeapYear year then 366 else 365 := by
  cases h : isLeapYear year <;> simp [daysBeforeMonth, daysInMonth, h]

/-- The twelve months fill the year. -/
theorem daysBeforeYear_succ {year : Nat} (h : 1 ≤ year) :
    daysBeforeYear (year + 1) = daysBeforeYear year + daysBeforeMonth year 13 := by
  obtain ⟨past, rfl⟩ := Nat.exists_eq_add_of_le' h
  have hcenturies := Nat.div_le_self past 100
  rw [daysBeforeMonth_thirteen]
  -- a quotient grows in the years that its divisor divides
  simp only [daysBeforeYear, isLeapYear, Nat.add_sub_cancel, Nat.succ_div, Nat.dvd_iff_mod_eq_zero]
  grind

theorem daysBeforeYear_mono {year other : Nat} (h : year ≤ other) : daysBeforeYear year ≤ daysBeforeYear other := by
  have hfour := Nat.div_le_div_right (c := 4) (Nat.sub_le_sub_right h 1)
  have hcenturies : (other - 1) / 100 ≤ (year - 1) / 100 + (other - year) := by
    omega
  have hfourHundred := Nat.div_le_div_right (c := 400) (Nat.sub_le_sub_right h 1)
  simp only [daysBeforeYear]
  omega

/-! ## The order of days -/

section Order

variable (date other : Date)

theorem one_le_ordinal : 1 ≤ date.ordinal := by
  have := date.day_pos
  unfold ordinal
  omega

/-- A day comes before the months behind its own. -/
theorem ordinal_le_month : date.ordinal ≤ daysBeforeYear date.year + daysBeforeMonth date.year (date.month + 1) := by
  have := date.day_le
  rw [daysBeforeMonth_succ _ date.month_pos, ordinal]
  omega

/-- A day comes before the years behind its own. -/
theorem ordinal_le_year : date.ordinal ≤ daysBeforeYear (date.year + 1) := by
  have hthirteen : date.month < 13 := Nat.lt_succ_of_le date.month_le
  have hmonth := daysBeforeMonth_add_le date.year date.month_pos hthirteen
  have hday := date.ordinal_le_month
  rw [daysBeforeMonth_succ _ date.month_pos] at hday
  rw [daysBeforeYear_succ date.year_pos]
  omega

/-- The calendar ends with the last year. -/
theorem ordinal_le_last : date.ordinal ≤ daysBeforeYear (lastYear + 1) :=
  date.ordinal_le_year.trans (daysBeforeYear_mono (Nat.succ_le_succ date.year_le))

variable {date other}

theorem ordinal_lt_of_year_lt (h : date.year < other.year) : date.ordinal < other.ordinal := by
  have hyears : daysBeforeYear (date.year + 1) ≤ daysBeforeYear other.year := daysBeforeYear_mono h
  have hdate := date.ordinal_le_year
  have hother := other.day_pos
  rw [ordinal.eq_def other]
  omega

theorem ordinal_lt_of_month_lt (hyear : date.year = other.year) (h : date.month < other.month) :
    date.ordinal < other.ordinal := by
  have hmonths := daysBeforeMonth_add_le date.year date.month_pos h
  have hdate := date.day_le
  have hother := other.day_pos
  rw [ordinal, ordinal, ← hyear]
  omega

/-- A number in which the parts of a date count as in a calendar with months and years of a hundred parts. -/
def rank (date : Date) : Nat :=
  (date.year * 100 + date.month) * 100 + date.day

theorem rank_lt_of_ordinal_lt (h : date.ordinal < other.ordinal) : date.rank < other.rank := by
  have hmonth := date.month_le
  have hday := date.day_le.trans (daysInMonth_le _ _)
  obtain hlt | heq | hgt := lt_trichotomy date.year other.year
  · unfold rank
    omega
  · obtain hlt' | heq' | hgt' := lt_trichotomy date.month other.month
    · unfold rank
      omega
    · unfold rank
      rw [ordinal, ordinal, heq, heq'] at h
      omega
    · exact absurd h (ordinal_lt_of_month_lt heq.symm hgt').not_gt
  · exact absurd h (ordinal_lt_of_year_lt hgt).not_gt

/-- Two days with the same number are the same day. -/
theorem eq_of_ordinal_eq (h : date.ordinal = other.ordinal) : date = other := by
  have hyear : date.year = other.year := by
    obtain hlt | heq | hgt := lt_trichotomy date.year other.year
    · exact absurd h (ordinal_lt_of_year_lt hlt).ne
    · exact heq
    · exact absurd h (ordinal_lt_of_year_lt hgt).ne'
  have hmonth : date.month = other.month := by
    obtain hlt | heq | hgt := lt_trichotomy date.month other.month
    · exact absurd h (ordinal_lt_of_month_lt hyear hlt).ne
    · exact heq
    · exact absurd h (ordinal_lt_of_month_lt hyear.symm hgt).ne'
  have hday : date.day = other.day := by
    rw [ordinal, ordinal, hyear, hmonth] at h
    omega
  cases date
  cases other
  cases hyear
  cases hmonth
  cases hday
  rfl

/-- Days are numbered in the order of their years, months and days. -/
theorem rank_lt_rank_iff : date.rank < other.rank ↔ date.ordinal < other.ordinal := by
  refine ⟨fun h => ?_, rank_lt_of_ordinal_lt⟩
  obtain hlt | heq | hgt := lt_trichotomy date.ordinal other.ordinal
  · exact hlt
  · rw [eq_of_ordinal_eq heq] at h
    exact absurd h (lt_irrefl _)
  · exact absurd h (rank_lt_of_ordinal_lt hgt).not_gt

end Order

/-! ## Neighbouring days -/

section Neighbours

variable (date : Date)

/-- The next day has the next number, and only the last day has no day behind it. -/
theorem next?_cases : (∃ other, date.next? = some other ∧ other.ordinal = date.ordinal + 1) ∨
    date.next? = none ∧ date.ordinal = daysBeforeYear (lastYear + 1) := by
  have hmonths := date.month_le
  have hdays := date.day_le
  unfold next?
  split
  · exact .inl ⟨_, rfl, rfl⟩
  · next hday =>
      have hend : date.day = daysInMonth date.year date.month := by omega
      split
      · refine .inl ⟨_, rfl, ?_⟩
        simp only [ordinal, hend]
        rw [daysBeforeMonth_succ _ date.month_pos]
        omega
      · next hmonth =>
          have htwelve : date.month = 12 := by omega
          split
          · refine .inl ⟨_, rfl, ?_⟩
            have hyear := daysBeforeYear_succ date.year_pos
            rw [daysBeforeMonth_succ _ (by decide : 1 ≤ 12)] at hyear
            simp only [ordinal, daysBeforeMonth, hend, htwelve, hyear, Nat.add_zero, Nat.add_assoc]
          · next hyear =>
              have hyears := date.year_le
              have hlast : date.year = lastYear := by omega
              refine .inr ⟨rfl, ?_⟩
              rw [ordinal, hend, htwelve, hlast]
              rfl

/-- The day before has the number before, and only the first day has no day before it. -/
theorem previous?_cases : (∃ other, date.previous? = some other ∧ date.ordinal = other.ordinal + 1) ∨
    date.previous? = none ∧ date.ordinal = 1 := by
  have hmonths := date.month_pos
  have hdays := date.day_pos
  unfold previous?
  split
  · refine .inl ⟨_, rfl, ?_⟩
    simp only [ordinal]
    omega
  · next hday =>
      have hfirst : date.day = 1 := by omega
      split
      · next hmonth =>
          obtain ⟨month, hsucc⟩ := Nat.exists_eq_add_of_le' (Nat.le_of_lt hmonth)
          refine .inl ⟨_, rfl, ?_⟩
          simp only [ordinal, hfirst, hsucc, Nat.add_sub_cancel]
          rw [daysBeforeMonth_succ _ (by omega)]
          omega
      · next hmonth =>
          have hone : date.month = 1 := by omega
          split
          · next hyear =>
              obtain ⟨year, hsucc⟩ := Nat.exists_eq_add_of_le' (Nat.le_of_lt hyear)
              have hbefore := daysBeforeYear_succ (by omega : 1 ≤ year)
              rw [daysBeforeMonth_succ _ (by decide : 1 ≤ 12)] at hbefore
              refine .inl ⟨_, rfl, ?_⟩
              simp only [ordinal, hfirst, hone, hsucc, Nat.add_sub_cancel, hbefore, daysBeforeMonth, Nat.add_zero,
                Nat.add_assoc]
          · next hyear =>
              have hyears := date.year_pos
              have hstart : date.year = 1 := by omega
              refine .inr ⟨rfl, ?_⟩
              rw [ordinal, hfirst, hone, hstart]
              rfl

end Neighbours

end Date

/-! ## Universal time -/

theorem Clock.micros_ofMicros {n : Nat} (h : n < microsPerDay) : (Clock.ofMicros n).micros = n := by
  simp only [microsPerDay, microsPerSecond] at h
  simp only [micros, ofMicros]
  omega

namespace Moment

/-- The instant at which the year behind the last one would start. -/
def calendarEnd : Int :=
  (Date.daysBeforeYear (lastYear + 1) : Int) * microsPerDay

theorem instant_of_zone {moment : Moment} {zone : Zone} (hzone : moment.zone = some zone) :
    moment.instant = ((moment.date.ordinal : Int) - 1) * microsPerDay + (moment.clock.micros - zone.offset) := by
  rw [instant, hzone, Option.map_some, Option.getD_some, Int.add_sub_assoc]

/-- A moment in universal time that is given by a day and the microseconds of the day. -/
theorem instant_ofMicros (date : Date) (micros : Int) :
    instant ⟨date, Clock.ofMicros (micros % microsPerDay).toNat, some Zone.universal⟩ =
      ((date.ordinal : Int) - 1) * microsPerDay + micros % microsPerDay := by
  have hday : 0 < (microsPerDay : Int) := by decide
  have hnonneg := Int.emod_nonneg micros (Int.ne_of_gt hday)
  have hlt := Int.emod_lt_of_pos micros hday
  rw [instant_of_zone rfl, Clock.micros_ofMicros (by omega), Int.toNat_of_nonneg hnonneg]
  exact congrArg _ (Int.sub_zero _)

/-- What is shown in universal time is in the calendar. -/
theorem instant_mem_calendar {moment : Moment} (hzone : moment.zone = some Zone.universal) :
    0 ≤ moment.instant ∧ moment.instant < calendarEnd := by
  have hclock := moment.clock.micros_lt
  have hfirst := moment.date.one_le_ordinal
  have hlast := moment.date.ordinal_le_last
  rw [instant_of_zone hzone, show Zone.universal.offset = 0 from rfl]
  simp only [calendarEnd, microsPerDay, microsPerSecond] at *
  omega

/-- A moment with a zone is the same instant in universal time, and it has no universal time if that instant is before the
start or behind the end of the calendar. -/
theorem toUniversal?_cases {moment : Moment} {zone : Zone} (hzone : moment.zone = some zone) :
    (∃ universal, moment.toUniversal? = some universal ∧ universal.zone = some Zone.universal ∧
        universal.instant = moment.instant) ∨
      moment.toUniversal? = none ∧ (moment.instant < 0 ∨ calendarEnd ≤ moment.instant) := by
  have hinstant := instant_of_zone hzone
  have hclock := moment.clock.micros_lt
  have hoffset := zone.offset_lt
  -- the local time of day, shifted to universal time, which may be on one of the two days around
  obtain ⟨micros, hmicros⟩ : ∃ micros, (moment.clock.micros : Int) - zone.offset = micros := ⟨_, rfl⟩
  rw [toUniversal?, hzone]
  dsimp only
  rw [hmicros] at hinstant ⊢
  by_cases hbefore : micros < 0
  · simp only [if_pos hbefore]
    obtain ⟨date, hdate, hnumber⟩ | ⟨hdate, hnumber⟩ := moment.date.previous?_cases
    · refine .inl ⟨_, by rw [hdate]; rfl, rfl, ?_⟩
      rw [instant_ofMicros]
      simp only [microsPerDay, microsPerSecond] at *
      omega
    · refine .inr ⟨by rw [hdate]; rfl, .inl ?_⟩
      rw [hinstant, hnumber]
      simpa using hbefore
  · by_cases hbehind : (microsPerDay : Int) ≤ micros
    · simp only [if_neg hbefore, if_pos hbehind]
      obtain ⟨date, hdate, hnumber⟩ | ⟨hdate, hnumber⟩ := moment.date.next?_cases
      · refine .inl ⟨_, by rw [hdate]; rfl, rfl, ?_⟩
        rw [instant_ofMicros]
        simp only [microsPerDay, microsPerSecond] at *
        omega
      · refine .inr ⟨by rw [hdate]; rfl, .inr ?_⟩
        rw [hinstant, hnumber, calendarEnd]
        simp only [microsPerDay, microsPerSecond] at *
        omega
    · simp only [if_neg hbefore, if_neg hbehind]
      refine .inl ⟨_, rfl, rfl, ?_⟩
      rw [instant_ofMicros, hinstant, Int.emod_eq_of_lt (by omega) (by omega)]

end Moment

end Temporal
end Stencil
