import Stencil.Proofs.Data.Showable
import Stencil.Proofs.Journal.Outcome
import Stencil.Proofs.Lookup.Contract

/-!
# Safe lookups

A lookup is safe if on ordinary data that there is room to show it never ends in a fault, finds only such data,
and does not note that an engine has failed (`Lookup.IsSafe`). Reading entries is safe, and so is reading
attributes, where properties that raise faults count as absent; and being safe is a contract, so that it is kept
in chains and along paths.
-/

namespace Stencil

/-- A note that does not tell of a failed engine. -/
def Note.IsHarmless : Note → Prop
  | .applyFailed _ => False
  | _ => True

/-- What a lookup finds can be shown, if it finds anything. -/
def Found.IsShowable (found : Found) : Prop :=
  ∀ value, found = .ok value → value.IsShowable

theorem Found.isShowable_error (absence : Absence) : Found.IsShowable (.error absence) := by
  intro value h
  cases h

theorem Found.isShowable_ok {value : Value} (h : value.IsShowable) :
    Found.IsShowable (.ok value) := by
  intro other hother
  cases hother
  exact h

namespace Lookup

open Noted (Ensures)

/-- A lookup that never fails on data that can be shown and stays within them. -/
def IsSafe (look : Lookup) : Prop :=
  ∀ target name, target.IsShowable →
    (look target name).Ensures Found.IsShowable Note.IsHarmless

theorem isSafe_entries : IsSafe entries := by
  intro target name h
  unfold entries
  split
  · refine Ensures.pure ?_
    split
    · next value hfind => exact Found.isShowable_ok (h.of_find? hfind)
    · exact Found.isShowable_error _
  · rw [h.isOrdinary.classFault?_eq_none]
    exact Ensures.pure (Found.isShowable_error _)

theorem isSafe_attributes : IsSafe attributes := by
  intro target name h
  unfold attributes
  split
  · exact Ensures.pure (Found.isShowable_error _)
  · split
    · exact Ensures.pure (Found.isShowable_error _)
    · next fault hbroken =>
        obtain ⟨reason, hreason⟩ := h.isOrdinary.exists_caught hbroken
        have hworded : (Noted.ofExcept fault.caught).Ensures (fun _ => True) Note.IsHarmless :=
          Ensures.ofExcept hreason trivial
        refine Ensures.bind hworded fun _ _ => ?_
        refine Ensures.bind (Ensures.note trivial) ?_
        exact fun _ _ => Ensures.pure (Found.isShowable_error _)
    · next value hfound =>
        have hvalue := h.of_attributeNamed hfound
        rw [hvalue.isOrdinary.typeFault?_eq_none]
        refine Ensures.pure ?_
        split
        · exact Found.isShowable_error _
        · exact Found.isShowable_ok hvalue

/-- To be safe is a contract among values that can be shown. -/
theorem contract_isSafe :
    Contract Value.IsShowable fun x => x.Ensures Found.IsShowable Note.IsHarmless where
  absent absence := Ensures.pure (Found.isShowable_error absence)
  found hvalue := Ensures.pure (Found.isShowable_ok hvalue)
  bind := by
    intro first rest hfirst habsent hfound
    refine Ensures.bind hfirst ?_
    intro found hshowable
    cases found with
    | error absence => exact habsent absence
    | ok value => exact hfound value (hshowable value rfl)

theorem IsSafe.keeps {look : Lookup} (h : look.IsSafe) :
    look.Keeps Value.IsShowable fun x => x.Ensures Found.IsShowable Note.IsHarmless :=
  h

/-- Going along a path stays within data that can be shown. -/
theorem IsSafe.walk {look : Lookup} (h : look.IsSafe) {target : Value} (htarget : target.IsShowable)
    (path : List String) :
    (look.walk target path).Ensures Found.IsShowable Note.IsHarmless :=
  h.keeps.walk contract_isSafe htarget path

end Lookup

namespace Resolver

open Lookup (contract_isSafe)

theorem isSafe_entries : entries.lookup.IsSafe :=
  keeps_entries Lookup.isSafe_entries.keeps

theorem isSafe_attributes : attributes.lookup.IsSafe :=
  keeps_attributes Lookup.isSafe_attributes.keeps

theorem isSafe_standard : standard.lookup.IsSafe :=
  keeps_standard contract_isSafe Lookup.isSafe_entries.keeps Lookup.isSafe_attributes.keeps

end Resolver

end Stencil
