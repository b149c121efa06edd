import Stencil.Proofs.Journal.Outcome

/-!
# The warnings of a computation

Of what a computation notes, the warnings are what a template loses. In a sequence they follow each other
(`Noted.warnings_bind_of_ok`); a voice that complains utters each of them (`Noted.warnings_note_bind`), and tracing adds none
(`Noted.warnings_note_of_debug`).
-/

namespace Stencil

namespace Noted

universe u

variable {α β : Type u}

/-- The warnings that a computation utters. -/
def warnings (x : Noted α) (voice : Voice) : List Note :=
  (x.notes voice).filter fun n => n.level = .warning

@[simp] theorem warnings_pure (a : α) (voice : Voice) : (pure a : Noted α).warnings voice = [] := by
  rfl

theorem warnings_bind_of_ok {x : Noted α} {a : α} {voice : Voice} (h : x.result voice = .ok a)
    (next : α → Noted β) :
    (x >>= next).warnings voice = x.warnings voice ++ (next a).warnings voice := by
  unfold warnings
  rw [notes_bind_of_ok h, List.filter_append]

theorem warnings_bind_eq_nil {x : Noted α} {next : α → Noted β} {voice : Voice}
    (hx : x.warnings voice = []) (hnext : ∀ a, (next a).warnings voice = []) :
    (x >>= next).warnings voice = [] := by
  cases hresult : x.result voice with
  | ok a => rw [warnings_bind_of_ok hresult, hx, hnext, List.append_nil]
  | error fault => rw [warnings, notes_bind_of_error hresult, ← warnings, hx]

/-- A voice that complains utters every warning. -/
theorem warnings_note_bind {voice : Voice} (hvoice : voice.uncomplaining = false) {n : Note}
    (hn : n.level = .warning) (next : PUnit → Noted β) :
    (note n >>= next).warnings voice = n :: (next ⟨⟩).warnings voice := by
  have hnote : (note n).warnings voice = [n] := by
    simp [warnings, Voice.filter, Voice.utters, hn, hvoice]
  rw [warnings_bind_of_ok (result_note n voice), hnote]
  rfl

theorem warnings_note_of_debug {n : Note} (hn : n.level = .debug) (voice : Voice) :
    (note n).warnings voice = [] := by
  simp [warnings, hn, Voice.filter]

end Noted

end Stencil
