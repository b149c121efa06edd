import Stencil.Proofs.Lookup.Safe
import Stencil.Render

/-!
# Rendering ordinary data

With a safe lookup, ordinary data that there is room to show can be rendered in all templates
(`Lookup.IsSafe.render`): formats that do not apply are refused and noted, members that are missing give empty
texts, and no fault is left.
-/

namespace Stencil

open Noted (Ensures)

/-- A value that is shown in a format, or plainly if the format is refused. -/
theorem Value.IsShowable.showWith {value : Value} (h : value.IsShowable) (format : Option String) :
    (value.showWith format).Ensures (fun _ => True) Note.IsHarmless := by
  have hplain : (Noted.ofExcept value.plainText).Ensures (fun _ => True) Note.IsHarmless := by
    obtain ⟨text, htext⟩ := h.plainText_eq_ok
    exact Ensures.ofExcept htext trivial
  unfold Value.showWith
  cases format with
  | none => exact hplain
  | some format =>
      dsimp only
      split
      · exact hplain
      · rw [h.isOrdinary.typeFault?_eq_none]
        dsimp only
        split
        · exact Ensures.pure trivial
        · next fault hfault =>
            obtain ⟨hkind, reason, hreason⟩ := h.refusesOnly_format format fault hfault
            rw [if_pos hkind]
            have hworded : (Noted.ofExcept fault.text).Ensures (fun _ => True) Note.IsHarmless :=
              Ensures.ofExcept hreason trivial
            refine Ensures.bind hworded fun _ _ => ?_
            exact Ensures.bind (Ensures.note trivial) fun _ _ => hplain

namespace Lookup

variable {look : Lookup}

theorem IsSafe.enter (h : look.IsSafe) {context : Value} (hcontext : context.IsShowable)
    (name : String) : (look.enter context name).Ensures Value.IsShowable Note.IsHarmless := by
  refine Ensures.bind (h context name hcontext) ?_
  intro found hfound
  cases found with
  | ok value => exact Ensures.pure (hfound value rfl)
  | error absence =>
      exact Ensures.bind (Ensures.note trivial) fun _ _ => Ensures.pure Value.IsShowable.nothing

theorem IsSafe.showPath (h : look.IsSafe) {context : Value} (hcontext : context.IsShowable)
    (path : List String) (format : Option String) :
    (look.showPath context path format).Ensures (fun _ => True) Note.IsHarmless := by
  refine Ensures.bind (h.walk hcontext path) ?_
  intro found hfound
  cases found with
  | ok value => exact (hfound value rfl).showWith format
  | error absence =>
      exact Ensures.bind (Ensures.note trivial) fun _ _ => Ensures.pure trivial

/-- Segments are rendered without a fault, as long as all contexts on the stack can be shown. -/
theorem IsSafe.renderIn (h : look.IsSafe) {context : Value} {outer : List Value}
    (hcontext : context.IsShowable) (houter : ∀ value, value ∈ outer → value.IsShowable)
    (segments : List Segment) :
    (look.renderIn context outer segments).Ensures (fun _ => True) Note.IsHarmless := by
  induction segments generalizing context outer with
  | nil =>
      unfold Lookup.renderIn
      split
      · exact Ensures.bind (Ensures.note trivial) fun _ _ => Ensures.pure trivial
      · exact Ensures.pure trivial
  | cons segment segments ih =>
      cases segment with
      | literal text =>
          exact Ensures.bind (ih hcontext houter) fun _ _ => Ensures.pure trivial
      | value path format =>
          refine Ensures.bind (h.showPath hcontext path format) fun text _ => ?_
          exact Ensures.bind (ih hcontext houter) fun _ _ => Ensures.pure trivial
      | scopeOpen name =>
          refine Ensures.bind (h.enter hcontext name) fun inner hinner => ih hinner ?_
          intro value hvalue
          rcases List.mem_cons.mp hvalue with rfl | hvalue
          · exact hcontext
          · exact houter value hvalue
      | scopeClose =>
          cases outer with
          | nil =>
              exact Ensures.bind (Ensures.note trivial) fun _ _ => ih hcontext houter
          | cons enclosing outer =>
              refine ih (houter enclosing List.mem_cons_self) ?_
              intro value hvalue
              exact houter value (List.mem_cons_of_mem _ hvalue)

theorem IsSafe.render (h : look.IsSafe) (segments : List Segment) {source : Value}
    (hsource : source.IsShowable) :
    (look.render segments source).Ensures (fun _ => True) Note.IsHarmless := by
  refine Ensures.bind (h.renderIn hsource ?_ segments) fun _ _ => Ensures.pure trivial
  intro value hvalue
  cases hvalue

end Lookup

end Stencil
