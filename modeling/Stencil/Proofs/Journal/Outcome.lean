import Stencil.Journal.Noted
import Mathlib.Control.Monad.Basic

/-!
# Results of computations that take notes

The result of a computation is its value or its fault, without the notes. Results compose like those of
computations that take no notes at all (`result_bind`), so two computations that note different things can
be compared by their results alone. The notes of a sequence are those of its parts, up to the first fault
(`notes_bind_of_ok`, `notes_bind_of_error`).

`Noted.Ensures` is the contract of a computation that never ends in a fault: in every voice it ends in a
value of one kind, and all that it notes is of one kind. Contracts follow the sequence of a computation
(`Ensures.bind`).
-/

namespace Stencil

/-- Outcomes can be compared if the values can. -/
instance Outcome.decidableEq {α : Type} [DecidableEq α] : DecidableEq (Outcome α) :=
  fun _ _ => decidable_of_iff _ Outcome.ext_iff.symm

namespace Noted

universe u

variable {α β : Type u}

/-- The value or the fault that a computation ends in. -/
def result (x : Noted α) (voice : Voice) : Except Fault α :=
  (x.run voice).result

@[simp] theorem result_pure (a : α) (voice : Voice) :
    (pure a : Noted α).result voice = .ok a := by
  rfl

@[simp] theorem result_ofExcept (given : Except Fault α) (voice : Voice) :
    (ofExcept given).result voice = given := by
  rfl

@[simp] theorem result_fail (fault : Fault) (voice : Voice) :
    (fail fault : Noted α).result voice = .error fault := by
  rfl

@[simp] theorem result_note (n : Note) (voice : Voice) :
    (note n).result voice = .ok ⟨⟩ := by
  rfl

/-- The result of a sequence is the sequence of the results. -/
@[simp] theorem result_bind (x : Noted α) (next : α → Noted β) (voice : Voice) :
    (x >>= next).result voice = x.result voice >>= fun a => (next a).result voice := by
  unfold result
  rw [run_bind]
  rcases x.run voice with ⟨notes, fault | a⟩
  · rfl
  · rfl

@[simp] theorem result_map (f : α → β) (x : Noted α) (voice : Voice) :
    (f <$> x).result voice = f <$> x.result voice := by
  rw [map_eq_pure_bind, result_bind, map_eq_pure_bind]
  rfl

/-- A sequence that ends in a value ends so in both of its parts. -/
theorem exists_result_of_bind {x : Noted α} {next : α → Noted β} {b : β} {voice : Voice}
    (h : (x >>= next).result voice = .ok b) :
    ∃ a, x.result voice = .ok a ∧ (next a).result voice = .ok b := by
  rw [result_bind] at h
  cases ha : x.result voice with
  | error fault =>
      rw [ha] at h
      cases h
  | ok a =>
      rw [ha] at h
      exact ⟨a, rfl, h⟩

/-- A computation that ends in a value needs no recovery. -/
theorem run_recover_of_ok {x : Noted α} {a : α} {voice : Voice} (h : x.result voice = .ok a)
    (next : Fault → Noted α) : (x.recover next).run voice = x.run voice := by
  unfold result at h
  rw [run_recover]
  rcases hrun : x.run voice with ⟨notes, end_⟩
  rw [hrun] at h
  subst h
  rfl

/-! ## Sequences of results -/

@[simp] theorem error_bind (fault : Fault) (next : α → Except Fault β) :
    (Except.error fault >>= next) = .error fault := by
  rfl

@[simp] theorem ok_bind (a : α) (next : α → Except Fault β) :
    (Except.ok a >>= next) = next a := by
  rfl

@[simp] theorem map_ok (f : α → β) (a : α) :
    f <$> (Except.ok a : Except Fault α) = .ok (f a) := by
  rfl

@[simp] theorem map_error (f : α → β) (fault : Fault) :
    f <$> (Except.error fault : Except Fault α) = .error fault := by
  rfl

/-! ## Notes -/

/-- The notes that a computation utters. -/
def notes (x : Noted α) (voice : Voice) : List Note :=
  (x.run voice).notes

@[simp] theorem notes_pure (a : α) (voice : Voice) : (pure a : Noted α).notes voice = [] := by
  rfl

@[simp] theorem notes_note (n : Note) (voice : Voice) :
    (note n).notes voice = voice.filter [n] := by
  rfl

/-- After a value, the notes of both parts of a sequence follow each other. -/
theorem notes_bind_of_ok {x : Noted α} {a : α} {voice : Voice} (h : x.result voice = .ok a)
    (next : α → Noted β) : (x >>= next).notes voice = x.notes voice ++ (next a).notes voice := by
  unfold result at h
  unfold notes
  rw [run_bind]
  rcases hrun : x.run voice with ⟨uttered, end_⟩
  rw [hrun] at h
  subst h
  rfl

/-- Behind a fault, nothing more is uttered. -/
theorem notes_bind_of_error {x : Noted α} {fault : Fault} {voice : Voice}
    (h : x.result voice = .error fault) (next : α → Noted β) :
    (x >>= next).notes voice = x.notes voice := by
  unfold result at h
  unfold notes
  rw [run_bind]
  rcases hrun : x.run voice with ⟨uttered, end_⟩
  rw [hrun] at h
  subst h
  rfl

/-- After a fault, recovery goes on with it; the notes until then stay. -/
theorem run_recover_of_error {x : Noted α} {fault : Fault} {voice : Voice}
    (h : x.result voice = .error fault) (next : Fault → Noted α) :
    (x.recover next).run voice =
      ⟨x.notes voice ++ (next fault).notes voice, (next fault).result voice⟩ := by
  unfold result at h
  unfold notes
  rw [run_recover]
  rcases hrun : x.run voice with ⟨uttered, end_⟩
  rw [hrun] at h
  subst h
  rfl

/-- Changing the value of a computation changes nothing of its notes. -/
theorem run_map (f : α → β) (x : Noted α) (voice : Voice) :
    (f <$> x).run voice = ⟨x.notes voice, f <$> x.result voice⟩ := by
  rw [map_eq_pure_bind, run_bind]
  unfold notes result
  rcases x.run voice with ⟨uttered, fault | a⟩
  · rfl
  · simp [Outcome.andThen]

theorem run_map_of_ok (f : α → β) {x : Noted α} {notes : List Note} {a : α} {voice : Voice}
    (h : x.run voice = ⟨notes, .ok a⟩) : (f <$> x).run voice = ⟨notes, .ok (f a)⟩ := by
  rw [run_map, Noted.notes, result, h]
  rfl

/-! ## Contracts -/

/-- In every voice the computation ends in a value with the property `post`, and every note that it utters
has the property `noted`. -/
def Ensures (x : Noted α) (post : α → Prop) (noted : Note → Prop) : Prop :=
  ∀ voice : Voice,
    (∃ a, x.result voice = .ok a ∧ post a) ∧ ∀ n, n ∈ (x.run voice).notes → noted n

namespace Ensures

variable {noted : Note → Prop} {post : α → Prop} {after : β → Prop}

theorem pure {a : α} (ha : post a) : Ensures (Pure.pure a : Noted α) post noted := by
  intro voice
  refine ⟨⟨a, rfl, ha⟩, ?_⟩
  intro n hn
  cases hn

theorem ofExcept {given : Except Fault α} {a : α} (hgiven : given = .ok a) (ha : post a) :
    Ensures (Noted.ofExcept given) post noted := by
  subst hgiven
  exact Ensures.pure ha

theorem note {n : Note} (hn : noted n) : Ensures (Noted.note n) (fun _ => True) noted := by
  intro voice
  refine ⟨⟨⟨⟩, rfl, trivial⟩, ?_⟩
  intro m hm
  rw [run_note] at hm
  have hmem : m ∈ [n] := (List.mem_filter.mp hm).1
  rw [List.mem_singleton.mp hmem]
  exact hn

/-- A sequence keeps the contract of its second part, if the first part ends in a value from which the
second part keeps it. -/
theorem bind {x : Noted α} {next : α → Noted β}
    (hx : Ensures x post noted)
    (hnext : ∀ a, post a → Ensures (next a) after noted) :
    Ensures (x >>= next) after noted := by
  intro voice
  obtain ⟨⟨a, ha, hpost⟩, hnotes⟩ := hx voice
  obtain ⟨⟨b, hb, hafter⟩, hmore⟩ := hnext a hpost voice
  refine ⟨⟨b, ?_, hafter⟩, ?_⟩
  · rw [result_bind, ha, ok_bind, hb]
  · intro n hn
    rw [run_bind] at hn
    unfold result at ha
    rcases hrun : x.run voice with ⟨notes, end_⟩
    rw [hrun] at ha hn hnotes
    subst ha
    rcases List.mem_append.mp hn with hfirst | hsecond
    · exact hnotes n hfirst
    · exact hmore n hsecond

end Ensures

end Noted
end Stencil
