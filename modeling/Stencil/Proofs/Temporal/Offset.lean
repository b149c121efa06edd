import Stencil.Proofs.Numeric.Digits
import Stencil.Proofs.Temporal.Items

/-!
# Offsets in hours and minutes

The offset of a zone is shown in hours and minutes with a sign (`hoursAndMinutes`), from which the minutes can be read again
(`hoursAndMinutes_inj`). To the east and in whole minutes, the shown minutes are the full ones of the offset. To the west they
are rounded up as soon as there is a full second more (`Zone.minutes_of_neg`), so such an offset is shown with one minute more
than it has (`shows_full_minutes_iff`).
-/

namespace Stencil
namespace Temporal

open Numeric (paddedDigits paddedDigits_inj length_paddedDigits)

/-- Hours and minutes with a sign. -/
def hoursAndMinutes (minutes : ℤ) : List Char :=
  (if minutes < 0 then '-' else '+') ::
    (paddedDigits 2 (minutes.natAbs / 60) ++ ':' :: paddedDigits 2 (minutes.natAbs % 60))

theorem hoursAndMinutes_inj {m n : ℤ} (hm : m.natAbs < 6000) (hn : n.natAbs < 6000) :
    hoursAndMinutes m = hoursAndMinutes n ↔ m = n := by
  refine ⟨fun h => ?_, congrArg hoursAndMinutes⟩
  obtain ⟨hsign, hrest⟩ := List.cons.inj h
  have hlength : (paddedDigits 2 (m.natAbs / 60)).length = (paddedDigits 2 (n.natAbs / 60)).length := by
    rw [length_paddedDigits (by decide) (by omega), length_paddedDigits (by decide) (by omega)]
  obtain ⟨hhours, hminutes⟩ := List.append_inj hrest hlength
  rw [paddedDigits_inj] at hhours
  rw [List.cons.injEq, paddedDigits_inj] at hminutes
  have hsize : m.natAbs = n.natAbs := by
    omega
  have hnegative : m < 0 ↔ n < 0 := by
    by_cases hm' : m < 0 <;> by_cases hn' : n < 0 <;> simp [hm', hn'] at hsign ⊢
  omega

namespace Zone

variable (zone : Zone)

/-! ## The minutes that are shown -/

theorem minutes_of_nonneg (h : 0 ≤ zone.offset) : zone.minutes = (zone.offset.natAbs / 60000000 : ℕ) := by
  obtain ⟨n, hn⟩ := Int.eq_ofNat_of_zero_le h
  rw [minutes, hn, Int.fdiv_eq_ediv_of_nonneg _ (by decide), Int.tdiv_eq_ediv_of_nonneg (Int.natCast_nonneg n),
    Int.natAbs_natCast]
  simp only [microsPerSecond]
  omega

/-- To the west, the full seconds are rounded up to minutes. -/
theorem minutes_of_neg (h : zone.offset < 0) :
    zone.minutes = -((zone.offset.natAbs / 1000000 + 59) / 60 : ℕ) := by
  obtain ⟨n, hn⟩ := Int.exists_eq_neg_ofNat h.le
  rw [minutes, hn, Int.fdiv_eq_ediv_of_nonneg _ (by decide), Int.neg_tdiv,
    Int.tdiv_eq_ediv_of_nonneg (Int.natCast_nonneg n), Int.natAbs_neg, Int.natAbs_natCast]
  simp only [microsPerSecond]
  omega

theorem natAbs_offset_lt : zone.offset.natAbs < 86400000000 :=
  zone.offset_lt

theorem natAbs_minutes_lt : zone.minutes.natAbs < 6000 := by
  have hoffset := zone.natAbs_offset_lt
  by_cases h : 0 ≤ zone.offset
  · rw [zone.minutes_of_nonneg h]
    omega
  · rw [zone.minutes_of_neg (by omega)]
    omega

/-- The offset in full minutes, of which there are as many to the west as to the east of the same distance, behind a minus
sign if there are any to the west. -/
def fullMinutesText : List Char :=
  let minutes := zone.offset.natAbs / 60000000
  (if zone.offset ≤ -60000000 then '-' else '+') ::
    (paddedDigits 2 (minutes / 60) ++ ':' :: paddedDigits 2 (minutes % 60))

/-- The offset in full minutes, with the sign of the offset. -/
def fullMinutes : ℤ :=
  if zone.offset < 0 then -(zone.offset.natAbs / 60000000 : ℕ) else (zone.offset.natAbs / 60000000 : ℕ)

theorem natAbs_fullMinutes : zone.fullMinutes.natAbs = zone.offset.natAbs / 60000000 := by
  unfold fullMinutes
  split <;> omega

theorem fullMinutesText_eq : zone.fullMinutesText = hoursAndMinutes zone.fullMinutes := by
  have hsign : zone.fullMinutes < 0 ↔ zone.offset ≤ -60000000 := by
    unfold fullMinutes
    split <;> omega
  rw [hoursAndMinutes, natAbs_fullMinutes, fullMinutesText]
  simp only [hsign]

theorem minutes_eq_fullMinutes_iff :
    zone.minutes = zone.fullMinutes ↔ 0 ≤ zone.offset ∨ 60 ∣ zone.offset.natAbs / 1000000 := by
  unfold fullMinutes
  split
  · next h =>
      rw [zone.minutes_of_neg h]
      omega
  · next h => exact iff_of_true (zone.minutes_of_nonneg (Int.not_lt.mp h)) (.inl (Int.not_lt.mp h))

/-- An offset of full minutes can be read from its minutes. -/
theorem offset_eq_minutes_mul (h : 60000000 ∣ zone.offset) : zone.offset = zone.minutes * 60000000 := by
  by_cases hnonneg : 0 ≤ zone.offset
  · rw [zone.minutes_of_nonneg hnonneg]
    omega
  · rw [zone.minutes_of_neg (Int.not_le.mp hnonneg)]
    omega

/-- What stands for a zone behind a moment: a letter for universal time itself, and the offset for all others. -/
def shown : List Char :=
  if zone.isUniversal then ['Z'] else hoursAndMinutes zone.minutes

theorem shown_ne_nil : zone.shown ≠ [] := by
  unfold shown
  split <;> exact List.cons_ne_nil _ _

/-- An offset of full minutes can be read from what stands for the zone. -/
theorem offset_eq_of_shown_eq {zone other : Zone} (hzone : 60000000 ∣ zone.offset) (hother : 60000000 ∣ other.offset)
    (h : zone.shown = other.shown) : zone.offset = other.offset := by
  have huniversal : ∀ {zone : Zone}, zone.isUniversal = true → zone.offset = 0 := fun h =>
    of_decide_eq_true (Bool.and_elim_left h)
  have hletter : ∀ minutes, ['Z'] ≠ hoursAndMinutes minutes := fun minutes h => by
    have hsign := (List.cons.inj h).1
    split at hsign <;> cases hsign
  unfold shown at h
  split at h
  · next hzoneUniversal =>
      split at h
      · next hotherUniversal => rw [huniversal hzoneUniversal, huniversal hotherUniversal]
      · exact absurd h (hletter _)
  · split at h
    · exact absurd h.symm (hletter _)
    · rw [hoursAndMinutes_inj zone.natAbs_minutes_lt other.natAbs_minutes_lt] at h
      rw [zone.offset_eq_minutes_mul hzone, other.offset_eq_minutes_mul hother, h]

end Zone

/-! ## Offsets in patterns -/

section Shown

variable {moment : Moment} {zone : Zone} {pattern : String}

/-- The two ways to ask for hours and minutes: universal time itself is shown by a letter in the second one. -/
def ShowsOffset (zone : Zone) (pattern : String) : Prop :=
  pattern = "zzz" ∨ pattern = "%K" ∧ zone.isUniversal = false

theorem showRun_z (count : ℕ) : moment.showRun 'z' count = offsetDigits count moment.zone := by
  rfl

theorem showRun_K (count : ℕ) : moment.showRun 'K' count =
    if moment.zone.any Zone.isUniversal then ['Z'] else offsetDigits 3 moment.zone := by
  rfl

theorem showRun_K_of_none (hzone : moment.zone = none) : moment.showRun 'K' 1 = [] := by
  rw [showRun_K, hzone]
  rfl

theorem showRun_K_of_some (hzone : moment.zone = some zone) : moment.showRun 'K' 1 = zone.shown := by
  rw [showRun_K, hzone]
  rfl

theorem format_of_showsOffset (hzone : moment.zone = some zone) (h : ShowsOffset zone pattern) :
    moment.format pattern = .ok (String.ofList (hoursAndMinutes zone.minutes)) := by
  obtain rfl | ⟨rfl, huniversal⟩ := h
  · have hshown := moment.format_run (by decide : isSpecifier 'z' = true) (by decide : 2 ≤ 3)
    rw [showRun_z, hzone] at hshown
    exact hshown
  · have hshown := moment.format_percent_run (by decide : (Item.run 'K' 1).IsComplete)
    rwa [showRun_K_of_some hzone, Zone.shown, huniversal, if_neg Bool.false_ne_true] at hshown

/-- The offset of a zone is always shown, and exactly if it is not to the west, or if its full seconds are a number of full
minutes, what is shown are its full minutes. All other offsets are shown with one minute more. -/
theorem shows_full_minutes_iff (hzone : moment.zone = some zone) (h : ShowsOffset zone pattern) :
    ∃ shown, moment.format pattern = .ok shown ∧
      (shown = String.ofList zone.fullMinutesText ↔ 0 ≤ zone.offset ∨ 60 ∣ zone.offset.natAbs / 1000000) ∧
      (¬ (0 ≤ zone.offset ∨ 60 ∣ zone.offset.natAbs / 1000000) →
        shown = String.ofList (hoursAndMinutes (-(zone.offset.natAbs / 60000000 + 1 : ℕ)))) := by
  refine ⟨_, format_of_showsOffset hzone h, ?_, fun hnot => ?_⟩
  · have hfull : zone.fullMinutes.natAbs < 6000 := by
      rw [zone.natAbs_fullMinutes]
      exact Nat.div_lt_of_lt_mul (zone.natAbs_offset_lt.trans_le (by decide))
    rw [String.ofList_inj, zone.fullMinutesText_eq, hoursAndMinutes_inj zone.natAbs_minutes_lt hfull,
      zone.minutes_eq_fullMinutes_iff]
  · rw [zone.minutes_of_neg (by omega)]
    congr 3
    omega

/-- An hour and a half to the west, and half a second more, which is not shown. -/
theorem shows_full_minutes_iff_of_part_of_second :
    let zone : Zone := ⟨-5400500000, none, by decide⟩
    let moment : Moment := ⟨Date.first, Clock.midnight, some zone⟩
    moment.zone = some zone ∧ ShowsOffset zone "%K" ∧ 60 ∣ zone.offset.natAbs / 1000000 ∧
      moment.format "%K" = .ok "-01:30" ∧
      ∃ shown, moment.format "%K" = .ok shown ∧
        (shown = String.ofList zone.fullMinutesText ↔ 0 ≤ zone.offset ∨ 60 ∣ zone.offset.natAbs / 1000000) ∧
        (¬ (0 ≤ zone.offset ∨ 60 ∣ zone.offset.natAbs / 1000000) →
          shown = String.ofList (hoursAndMinutes (-(zone.offset.natAbs / 60000000 + 1 : ℕ)))) := by
  intro zone moment
  have hpattern : ShowsOffset zone "%K" := .inr ⟨rfl, by decide⟩
  refine ⟨rfl, hpattern, by decide, ?_, shows_full_minutes_iff rfl hpattern⟩
  with_unfolding_all decide

/-- A minute and a half to the west is shown as two minutes, the same distance to the east as one. -/
theorem shows_one_minute_too_many :
    let west : Zone := ⟨-90000000, none, by decide⟩
    let east : Zone := ⟨90000000, none, by decide⟩
    let moment := fun zone => (⟨Date.first, Clock.midnight, some zone⟩ : Moment)
    (moment west).format "zzz" = .ok "-00:02" ∧ String.ofList west.fullMinutesText = "-00:01" ∧
      (moment east).format "zzz" = .ok "+00:01" ∧ String.ofList east.fullMinutesText = "+00:01" := by
  refine ⟨?_, ?_, ?_, ?_⟩ <;> with_unfolding_all rfl

end Shown

end Temporal
end Stencil
