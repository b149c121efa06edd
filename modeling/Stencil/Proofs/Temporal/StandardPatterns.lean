import Stencil.Proofs.Temporal.Calendar
import Stencil.Proofs.Temporal.Offset
import Stencil.Proofs.Text.Sorting

/-!
# Standard patterns that sort

The standard patterns `s`, `u` and `o` start with the date and the time of day in parts of fixed widths, the greater ones
first, so that they sort as calendar and clock do (`Moment.sortsBy_dateAndTime`).

What `o` shows can be read again: it tells calendar and clock to the microsecond, and the offset if that is a number of full
minutes (`Moment.round_trip_loses_nothing_and_sorts`). What `u` shows depends on nothing but the instant
(`Moment.universal_sorts_by_instant`).
-/

namespace Stencil
namespace Temporal

open Item (IsSequence writeAll)
open Numeric (length_paddedDigits paddedDigits)
open Text (SortsBy sortsBy_paddedDigits)

/-! ## Date and time of day -/

/-- A date in parts of fixed widths. -/
def Date.inParts (date : Date) : List Char :=
  paddedDigits 4 date.year ++ ('-' :: paddedDigits 2 date.month) ++ ('-' :: paddedDigits 2 date.day)

/-- A date sorts by the number of the day. -/
theorem Date.sortsBy_inParts : SortsBy Date.inParts Date.ordinal := by
  have hmonth : ∀ date : Date, date.month < 100 := fun date => date.month_le.trans_lt (by decide)
  have hday : ∀ date : Date, date.day < 100 := fun date =>
    (date.day_le.trans (daysInMonth_le _ _)).trans_lt (by decide)
  have year : SortsBy (fun date : Date => paddedDigits 4 date.year) Date.year :=
    sortsBy_paddedDigits (by decide) fun date => date.year_le.trans_lt (by decide)
  have month : SortsBy (fun date : Date => paddedDigits 2 date.month) Date.month :=
    sortsBy_paddedDigits (by decide) hmonth
  have day : SortsBy (fun date : Date => paddedDigits 2 date.day) Date.day :=
    sortsBy_paddedDigits (by decide) hday
  exact ((year.append (month.behind ['-']) hmonth).append (day.behind ['-']) hday).congr
    fun _ _ => Date.rank_lt_rank_iff

namespace Moment

/-- The full seconds that calendar and clock show, counted from the day before the first one. -/
def seconds (moment : Moment) : ℕ :=
  ((moment.date.ordinal * 24 + moment.clock.hour) * 60 + moment.clock.minute) * 60 + moment.clock.second

/-- The date and the time of day in parts of fixed widths. -/
def dateAndTime (between : Char) (moment : Moment) : List Char :=
  moment.date.inParts ++ (between :: paddedDigits 2 moment.clock.hour) ++
    (':' :: paddedDigits 2 moment.clock.minute) ++ (':' :: paddedDigits 2 moment.clock.second)

theorem sortsBy_dateAndTime (between : Char) : SortsBy (dateAndTime between) seconds := by
  have date := Date.sortsBy_inParts.comp Moment.date
  have hour : SortsBy (fun moment : Moment => paddedDigits 2 moment.clock.hour) fun moment => moment.clock.hour :=
    sortsBy_paddedDigits (by decide) fun moment => moment.clock.hour_lt.trans (by decide)
  have minute : SortsBy (fun moment : Moment => paddedDigits 2 moment.clock.minute) fun moment => moment.clock.minute :=
    sortsBy_paddedDigits (by decide) fun moment => moment.clock.minute_lt.trans (by decide)
  have second : SortsBy (fun moment : Moment => paddedDigits 2 moment.clock.second) fun moment => moment.clock.second :=
    sortsBy_paddedDigits (by decide) fun moment => moment.clock.second_lt.trans (by decide)
  exact ((date.append (hour.behind [between]) fun moment => moment.clock.hour_lt).append (minute.behind [':'])
    fun moment => moment.clock.minute_lt).append (second.behind [':']) fun moment => moment.clock.second_lt

/-- The date and the time of day with seven decimals, the last of which is always zero. -/
def exactDateAndTime (moment : Moment) : List Char :=
  moment.dateAndTime 'T' ++ ('.' :: (paddedDigits 6 moment.clock.micro ++ ['0']))

theorem sortsBy_exactDateAndTime :
    SortsBy exactDateAndTime fun moment => moment.seconds * 1000000 + moment.clock.micro := by
  have micro : SortsBy (fun moment : Moment => paddedDigits 6 moment.clock.micro) fun moment => moment.clock.micro :=
    sortsBy_paddedDigits (by decide) fun moment => moment.clock.micro_lt
  exact (sortsBy_dateAndTime 'T').append ((micro.before ['0']).behind ['.']) fun moment => moment.clock.micro_lt

/-- A moment in universal time as `u` shows it. -/
def universalText (moment : Moment) : List Char :=
  moment.dateAndTime ' ' ++ ['Z']

/-! ## The patterns -/

def dateItems : List Item :=
  [.run 'y' 4, .quoted '\'' ['-'], .run 'M' 2, .quoted '\'' ['-'], .run 'd' 2]

def timeItems : List Item :=
  [.run 'H' 2, .quoted '\'' [':'], .run 'm' 2, .quoted '\'' [':'], .run 's' 2]

section Patterns

variable (moment : Moment)

theorem showPattern_of_written {pattern : String} {body : List Item} (hsequence : IsSequence body none)
    (hwritten : pattern.toList = writeAll body) :
    moment.showPattern pattern.toList = body.flatMap moment.showItem := by
  have hshown := moment.showPattern_writeAll hsequence
  rwa [Option.toList_none, List.append_nil, ← hwritten] at hshown

/-- A date and a time of day with one item between them. -/
theorem flatMap_showItem_dateAndTime {item : Item} {between : Char} (h : moment.showItem item = [between]) :
    (dateItems ++ item :: timeItems).flatMap moment.showItem = moment.dateAndTime between := by
  rw [List.flatMap_append, List.flatMap_cons, h]
  simp [dateItems, timeItems, dateAndTime, Date.inParts, showItem, showRun, numberOrName, shortNumber]

theorem format_s : moment.format "s" = .ok (String.ofList (moment.dateAndTime 'T')) := by
  have hsequence : IsSequence (dateItems ++ .quoted '\'' ['T'] :: timeItems) none := by
    decide
  have hshown := moment.showPattern_of_written hsequence
    (by decide : "yyyy'-'MM'-'dd'T'HH':'mm':'ss".toList = _)
  rw [flatMap_showItem_dateAndTime moment rfl] at hshown
  exact congrArg (Except.ok ∘ String.ofList) hshown

/-- The seven decimals of a second. -/
theorem showRun_f_seven : moment.showRun 'f' 7 = paddedDigits 6 moment.clock.micro ++ ['0'] := by
  have hlength : (secondDecimals moment.clock).length = 7 := by
    rw [secondDecimals, List.length_append, length_paddedDigits (by decide) moment.clock.micro_lt]
    rfl
  exact List.take_of_length_le hlength.le

theorem format_o :
    moment.format "o" = .ok (String.ofList (moment.exactDateAndTime ++ moment.showRun 'K' 1)) := by
  have hsequence : IsSequence
      ((dateItems ++ .quoted '\'' ['T'] :: timeItems) ++ [.quoted '\'' ['.'], .run 'f' 7, .run 'K' 1]) none := by
    decide
  have hshown := moment.showPattern_of_written hsequence
    (by decide : "yyyy'-'MM'-'dd'T'HH':'mm':'ss'.'fffffffK".toList = _)
  have hrest : [Item.quoted '\'' ['.'], .run 'f' 7, .run 'K' 1].flatMap moment.showItem =
      ('.' :: (paddedDigits 6 moment.clock.micro ++ ['0'])) ++ moment.showRun 'K' 1 := by
    simp [showItem, showRun_f_seven]
  rw [List.flatMap_append, flatMap_showItem_dateAndTime moment rfl, hrest, ← List.append_assoc] at hshown
  exact congrArg (Except.ok ∘ String.ofList) hshown

theorem format_u : moment.format "u" = String.ofList <$> match moment.toUniversal? with
    | some universal => pure (universal.showPattern "yyyy'-'MM'-'dd HH':'mm':'ss'Z'".toList)
    | none => throw .outOfCalendar :=
  rfl

theorem format_u_of_some {universal : Moment} (h : moment.toUniversal? = some universal) :
    moment.format "u" = .ok (String.ofList universal.universalText) := by
  have hsequence : IsSequence ((dateItems ++ .bare ' ' :: timeItems) ++ [.quoted '\'' ['Z']]) none := by
    decide
  have hshown := universal.showPattern_of_written hsequence
    (by decide : "yyyy'-'MM'-'dd HH':'mm':'ss'Z'".toList = _)
  rw [List.flatMap_append, flatMap_showItem_dateAndTime universal rfl] at hshown
  rw [format_u, h]
  exact congrArg (Except.ok ∘ String.ofList) hshown

theorem format_u_of_none (h : moment.toUniversal? = none) : moment.format "u" = .error .outOfCalendar := by
  rw [format_u, h]
  rfl

/-! ## Instants -/

/-- The offset of a moment, if it has a zone. -/
def offset? : Option ℤ :=
  moment.zone.map Zone.offset

theorem instant_eq_seconds : moment.instant =
    ((moment.seconds : ℤ) - 86400) * 1000000 + moment.clock.micro - moment.offset?.getD 0 := by
  simp only [instant, seconds, offset?, Clock.micros, microsPerDay, microsPerSecond]
  omega

/-- Without a zone and in universal time, what calendar and clock show are the full seconds of the instant. -/
theorem instant_ediv (h : moment.zone = none ∨ moment.zone = some Zone.universal) :
    moment.instant / (microsPerSecond : ℤ) = (moment.seconds : ℤ) - 86400 := by
  have hmicro := moment.clock.micro_lt
  have hoffset : moment.offset?.getD 0 = 0 := by
    obtain hnone | huniversal := h
    · rw [offset?, hnone]
      rfl
    · rw [offset?, huniversal]
      rfl
  rw [instant_eq_seconds, hoffset]
  simp only [microsPerSecond]
  omega

end Patterns

/-! ## Losing nothing -/

section RoundTrip

variable {a b : Moment}

/-- A moment without a zone, or with one that is a number of full minutes away from universal time. -/
def IsInFullMinutes (moment : Moment) : Prop :=
  ∀ zone, zone ∈ moment.zone → 60000000 ∣ zone.offset

/-- What is shown of a zone tells its offset, if that is a number of full minutes. -/
theorem offset?_eq_of_showRun_K (ha : a.IsInFullMinutes) (hb : b.IsInFullMinutes)
    (h : a.showRun 'K' 1 = b.showRun 'K' 1) : a.offset? = b.offset? := by
  cases hazone : a.zone with
  | none =>
      cases hbzone : b.zone with
      | none => rw [offset?, offset?, hazone, hbzone]
      | some other =>
          rw [showRun_K_of_none hazone, showRun_K_of_some hbzone] at h
          exact absurd h.symm other.shown_ne_nil
  | some zone =>
      rw [showRun_K_of_some hazone] at h
      cases hbzone : b.zone with
      | none =>
          rw [showRun_K_of_none hbzone] at h
          exact absurd h zone.shown_ne_nil
      | some other =>
          rw [showRun_K_of_some hbzone] at h
          rw [offset?, offset?, hazone, hbzone, Option.map_some, Option.map_some]
          exact congrArg some (Zone.offset_eq_of_shown_eq (ha zone hazone) (hb other hbzone) h)

/-- Calendar and clock show the same if they show the same seconds and microseconds. -/
theorem date_clock_eq_of_seconds_eq (h : a.seconds = b.seconds) (hmicro : a.clock.micro = b.clock.micro) :
    a.date = b.date ∧ a.clock = b.clock := by
  have hour := a.clock.hour_lt
  have minute := a.clock.minute_lt
  have second := a.clock.second_lt
  have hour' := b.clock.hour_lt
  have minute' := b.clock.minute_lt
  have second' := b.clock.second_lt
  unfold seconds at h
  have hclock : a.clock.micros = b.clock.micros := by
    unfold Clock.micros
    omega
  refine ⟨Date.eq_of_ordinal_eq (by omega), ?_⟩
  rw [← Clock.ofMicros_micros a.clock, hclock, Clock.ofMicros_micros]

/-- What `o` shows tells calendar, clock and offset, if that is a number of full minutes. -/
theorem eq_of_exactDateAndTime_eq (ha : a.IsInFullMinutes) (hb : b.IsInFullMinutes)
    (h : a.exactDateAndTime ++ a.showRun 'K' 1 = b.exactDateAndTime ++ b.showRun 'K' 1) :
    a.date = b.date ∧ a.clock = b.clock ∧ a.offset? = b.offset? := by
  have hsorts := sortsBy_exactDateAndTime
  obtain ⟨hfront, hzone⟩ := List.append_inj h (hsorts.length_eq a b)
  have hkey : a.seconds * 1000000 + a.clock.micro = b.seconds * 1000000 + b.clock.micro := (hsorts.eq_iff a b).mp hfront
  have hmicro := a.clock.micro_lt
  have hmicro' := b.clock.micro_lt
  obtain ⟨hdate, hclock⟩ := date_clock_eq_of_seconds_eq (a := a) (b := b) (by omega) (by omega)
  exact ⟨hdate, hclock, offset?_eq_of_showRun_K ha hb hzone⟩

/-- Moments without a zone are shown by `o` in the order of their instants. -/
theorem exactDateAndTime_lt_iff (ha : a.zone = none) (hb : b.zone = none) :
    a.exactDateAndTime ++ a.showRun 'K' 1 < b.exactDateAndTime ++ b.showRun 'K' 1 ↔ a.instant < b.instant := by
  rw [showRun_K_of_none ha, showRun_K_of_none hb, List.append_nil, List.append_nil, sortsBy_exactDateAndTime.lt_iff,
    instant_eq_seconds, instant_eq_seconds, offset?, offset?, ha, hb]
  simp only [Option.map_none, Option.getD_none]
  omega

/-- The pattern `o` tells calendar, clock and offset of all moments without a zone or with an offset in full minutes. If
they have no zone, what it shows sorts by the instants, and what `s` shows sorts by the full seconds. -/
theorem round_trip_loses_nothing_and_sorts (a b : Moment) :
    ∃ exact exact' short short', a.format "o" = .ok exact ∧ b.format "o" = .ok exact' ∧
      a.format "s" = .ok short ∧ b.format "s" = .ok short' ∧
      (a.IsInFullMinutes → b.IsInFullMinutes → exact = exact' →
        a.date = b.date ∧ a.clock = b.clock ∧ a.offset? = b.offset?) ∧
      (a.zone = none → b.zone = none →
        (exact < exact' ↔ a.instant < b.instant) ∧
        (short < short' ↔ a.instant / (microsPerSecond : ℤ) < b.instant / (microsPerSecond : ℤ))) := by
  refine ⟨_, _, _, _, a.format_o, b.format_o, a.format_s, b.format_s, fun ha hb h => ?_, fun ha hb => ⟨?_, ?_⟩⟩
  · exact eq_of_exactDateAndTime_eq ha hb (String.ofList_inj.mp h)
  · rw [String.lt_iff_toList_lt, String.toList_ofList, String.toList_ofList, exactDateAndTime_lt_iff ha hb]
  · rw [String.lt_iff_toList_lt, String.toList_ofList, String.toList_ofList, (sortsBy_dateAndTime 'T').lt_iff,
      a.instant_ediv (.inl ha), b.instant_ediv (.inl hb)]
    omega

/-- The last microsecond of the year 999 sorts before the year 1000. -/
theorem round_trip_loses_nothing_and_sorts_of_year_thousand :
    let a : Moment :=
      ⟨⟨999, 12, 31, by decide, by decide, by decide, by decide, by decide, by decide⟩, Clock.last, none⟩
    let b : Moment :=
      ⟨⟨1000, 1, 1, by decide, by decide, by decide, by decide, by decide, by decide⟩, Clock.midnight, none⟩
    a.format "o" = .ok "0999-12-31T23:59:59.9999990" ∧ b.format "o" = .ok "1000-01-01T00:00:00.0000000" ∧
      a.instant < b.instant ∧
      ∃ exact exact' short short', a.format "o" = .ok exact ∧ b.format "o" = .ok exact' ∧
        a.format "s" = .ok short ∧ b.format "s" = .ok short' ∧
        (a.IsInFullMinutes → b.IsInFullMinutes → exact = exact' →
          a.date = b.date ∧ a.clock = b.clock ∧ a.offset? = b.offset?) ∧
        (a.zone = none → b.zone = none →
          (exact < exact' ↔ a.instant < b.instant) ∧
          (short < short' ↔ a.instant / (microsPerSecond : ℤ) < b.instant / (microsPerSecond : ℤ))) := by
  intro a b
  refine ⟨?_, ?_, by decide, round_trip_loses_nothing_and_sorts a b⟩ <;> with_unfolding_all decide

end RoundTrip

/-! ## Universal time -/

section Universal

variable {a b : Moment} {zone other : Zone}

theorem universalText_le_iff (ha : a.zone = some Zone.universal) (hb : b.zone = some Zone.universal) :
    a.universalText ≤ b.universalText ↔ a.instant / (microsPerSecond : ℤ) ≤ b.instant / (microsPerSecond : ℤ) := by
  rw [universalText, universalText, ((sortsBy_dateAndTime ' ').before ['Z']).le_iff, a.instant_ediv (.inr ha),
    b.instant_ediv (.inr hb)]
  omega

/-- The pattern `u` shows the universal time of a moment with a zone, which there is for the instants of the calendar. -/
theorem format_u_cases (hzone : a.zone = some zone) :
    (∃ universal : Moment, a.format "u" = .ok (String.ofList universal.universalText) ∧
        universal.zone = some Zone.universal ∧ universal.instant = a.instant) ∨
      a.format "u" = .error .outOfCalendar ∧ (a.instant < 0 ∨ calendarEnd ≤ a.instant) := by
  obtain ⟨universal, huniversal, hrest⟩ | ⟨hnone, hinstant⟩ := toUniversal?_cases hzone
  · exact .inl ⟨universal, a.format_u_of_some huniversal, hrest⟩
  · exact .inr ⟨a.format_u_of_none hnone, hinstant⟩

theorem format_u_eq_ok_iff (hzone : a.zone = some zone) :
    (∃ text, a.format "u" = .ok text) ↔ 0 ≤ a.instant ∧ a.instant < calendarEnd := by
  obtain ⟨universal, hok, huniversal, hinstant⟩ | ⟨herror, hinstant⟩ := format_u_cases hzone
  · exact iff_of_true ⟨_, hok⟩ (hinstant ▸ instant_mem_calendar huniversal)
  · refine iff_of_false ?_ (by omega)
    rintro ⟨text, hok⟩
    cases herror.symm.trans hok

theorem format_u_overflows_iff (hzone : a.zone = some zone) :
    (∃ fault, a.format "u" = .error fault ∧ fault.kind = .overflow) ↔ a.instant < 0 ∨ calendarEnd ≤ a.instant := by
  obtain ⟨universal, hok, huniversal, hinstant⟩ | ⟨herror, hinstant⟩ := format_u_cases hzone
  · have hmem := instant_mem_calendar huniversal
    refine iff_of_false ?_ (by omega)
    rintro ⟨fault, herror, -⟩
    cases herror.symm.trans hok
  · exact iff_of_true ⟨_, herror, rfl⟩ hinstant

theorem format_u_le_iff (ha : a.zone = some zone) (hb : b.zone = some other) {text text' : String}
    (htext : a.format "u" = .ok text) (htext' : b.format "u" = .ok text') :
    text ≤ text' ↔ a.instant / (microsPerSecond : ℤ) ≤ b.instant / (microsPerSecond : ℤ) := by
  obtain ⟨universal, hok, huniversal, hinstant⟩ | ⟨herror, -⟩ := format_u_cases ha
  · obtain ⟨universal', hok', huniversal', hinstant'⟩ | ⟨herror', -⟩ := format_u_cases hb
    · have hshown : text = String.ofList universal.universalText := Except.ok.inj (htext.symm.trans hok)
      have hshown' : text' = String.ofList universal'.universalText := Except.ok.inj (htext'.symm.trans hok')
      rw [hshown, hshown', String.le_iff_toList_le, String.toList_ofList, String.toList_ofList,
        universalText_le_iff huniversal huniversal', hinstant, hinstant']
    · cases herror'.symm.trans htext'
  · cases herror.symm.trans htext

/-- Moments at the same instant are shown alike, or neither of them is. -/
theorem format_u_congr (ha : a.zone = some zone) (hb : b.zone = some other) (h : a.instant = b.instant) :
    a.format "u" = b.format "u" := by
  obtain ⟨universal, hok, huniversal, hinstant⟩ | ⟨herror, hout⟩ := format_u_cases ha
  · obtain ⟨text, htext⟩ := (format_u_eq_ok_iff hb).mpr (h ▸ (format_u_eq_ok_iff ha).mp ⟨_, hok⟩)
    have hle := (format_u_le_iff ha hb hok htext).mpr (by rw [h])
    have hge := (format_u_le_iff hb ha htext hok).mpr (by rw [h])
    rw [hok, htext, le_antisymm hle hge]
  · obtain ⟨universal, -, huniversal, hinstant⟩ | ⟨herror', -⟩ := format_u_cases hb
    · have hmem := instant_mem_calendar huniversal
      omega
    · rw [herror, herror']

/-- The pattern `u` shows moments with zones in the order of the full seconds of their instants, so that it shows the same
for the same instant, and it overflows exactly if the instant lies outside the calendar. -/
theorem universal_sorts_by_instant (ha : a.zone = some zone) (hb : b.zone = some other) :
    ((∃ fault, a.format "u" = .error fault ∧ fault.kind = .overflow) ↔ a.instant < 0 ∨ calendarEnd ≤ a.instant) ∧
      ((∃ text, a.format "u" = .ok text) ↔ 0 ≤ a.instant ∧ a.instant < calendarEnd) ∧
      (∀ text text', a.format "u" = .ok text → b.format "u" = .ok text' →
        (text ≤ text' ↔ a.instant / (microsPerSecond : ℤ) ≤ b.instant / (microsPerSecond : ℤ))) ∧
      (a.instant = b.instant → a.format "u" = b.format "u") :=
  ⟨format_u_overflows_iff ha, format_u_eq_ok_iff ha, fun _ _ => format_u_le_iff ha hb, format_u_congr ha hb⟩

/-- The start of a leap day, of which the first zone shows the microsecond before it and the second zone the last half of
a second of the day. -/
theorem universal_sorts_by_instant_of_leap_day :
    let zone : Zone := ⟨-1, none, by decide⟩
    let other : Zone := ⟨86399500001, none, by decide⟩
    let a : Moment :=
      ⟨⟨2000, 2, 28, by decide, by decide, by decide, by decide, by decide, by decide⟩, Clock.last, some zone⟩
    let b : Moment :=
      ⟨⟨2000, 2, 29, by decide, by decide, by decide, by decide, by decide, by decide⟩,
        ⟨23, 59, 59, 500001, by decide, by decide, by decide, by decide⟩, some other⟩
    a.zone = some zone ∧ b.zone = some other ∧ a.instant = b.instant ∧ a.format "u" = .ok "2000-02-29 00:00:00Z" ∧
      ((∃ fault, a.format "u" = .error fault ∧ fault.kind = .overflow) ↔ a.instant < 0 ∨ calendarEnd ≤ a.instant) ∧
      ((∃ text, a.format "u" = .ok text) ↔ 0 ≤ a.instant ∧ a.instant < calendarEnd) ∧
      (∀ text text', a.format "u" = .ok text → b.format "u" = .ok text' →
        (text ≤ text' ↔ a.instant / (microsPerSecond : ℤ) ≤ b.instant / (microsPerSecond : ℤ))) ∧
      (a.instant = b.instant → a.format "u" = b.format "u") := by
  intro zone other a b
  refine ⟨rfl, rfl, by decide, ?_, universal_sorts_by_instant rfl rfl⟩
  with_unfolding_all decide

end Universal

end Moment

end Temporal
end Stencil
