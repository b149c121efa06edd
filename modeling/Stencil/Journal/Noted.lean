import Stencil.Journal.Note

/-!
# Computations that take notes

A computation of type `Noted α` is run with a voice. It ends in a value or in a fault, and in both cases
it leaves the notes that were uttered until then, in order. A fault ends a sequence of computations; it can
be recovered from, and the notes before it stay.
-/

namespace Stencil

universe u

/-- The end of a computation: the notes it uttered, and its value or fault. -/
@[ext] structure Outcome (α : Type u) where
  notes : List Note
  result : Except Fault α

namespace Outcome

/-- Continues after a value; the notes of both parts follow each other. -/
def andThen {α β : Type u} (outcome : Outcome α) (next : α → Outcome β) : Outcome β :=
  match outcome with
  | ⟨notes, .ok a⟩ => ⟨notes ++ (next a).notes, (next a).result⟩
  | ⟨notes, .error fault⟩ => ⟨notes, .error fault⟩

/-- Continues after a fault; the notes of both parts follow each other. -/
def orElse {α : Type u} (outcome : Outcome α) (next : Fault → Outcome α) : Outcome α :=
  match outcome with
  | ⟨notes, .ok a⟩ => ⟨notes, .ok a⟩
  | ⟨notes, .error fault⟩ => ⟨notes ++ (next fault).notes, (next fault).result⟩

end Outcome

/-- A computation that takes notes. -/
@[ext] structure Noted (α : Type u) where
  run : Voice → Outcome α

namespace Noted

variable {α β : Type u}

/-- The computation with this result, which notes nothing. -/
def ofExcept (result : Except Fault α) : Noted α :=
  ⟨fun _ => ⟨[], result⟩⟩

instance : Monad Noted where
  pure a := ofExcept (.ok a)
  bind x next := ⟨fun voice => (x.run voice).andThen fun a => (next a).run voice⟩

def fail (fault : Fault) : Noted α :=
  ofExcept (.error fault)

/-- Utters a note, if the voice lets it. -/
def note (note : Note) : Noted PUnit :=
  ⟨fun voice => ⟨voice.filter [note], .ok ⟨⟩⟩⟩

def recover (x : Noted α) (next : Fault → Noted α) : Noted α :=
  ⟨fun voice => (x.run voice).orElse fun fault => (next fault).run voice⟩

@[simp] theorem run_pure (a : α) (voice : Voice) :
    (pure a : Noted α).run voice = ⟨[], .ok a⟩ := by
  rfl

@[simp] theorem run_ofExcept (result : Except Fault α) (voice : Voice) :
    (ofExcept result).run voice = ⟨[], result⟩ := by
  rfl

@[simp] theorem run_fail (fault : Fault) (voice : Voice) :
    (fail fault : Noted α).run voice = ⟨[], .error fault⟩ := by
  rfl

@[simp] theorem run_note (n : Note) (voice : Voice) :
    (note n).run voice = ⟨voice.filter [n], .ok ⟨⟩⟩ := by
  rfl

@[simp] theorem run_bind (x : Noted α) (next : α → Noted β) (voice : Voice) :
    (x >>= next).run voice = (x.run voice).andThen fun a => (next a).run voice := by
  rfl

@[simp] theorem run_recover (x : Noted α) (next : Fault → Noted α) (voice : Voice) :
    (x.recover next).run voice = (x.run voice).orElse fun fault => (next fault).run voice := by
  rfl

theorem andThen_pure (outcome : Outcome α) :
    outcome.andThen (fun a => ⟨[], .ok a⟩) = outcome := by
  rcases outcome with ⟨notes, fault | a⟩ <;> simp [Outcome.andThen]

theorem andThen_assoc {γ : Type u} (outcome : Outcome α) (f : α → Outcome β) (g : β → Outcome γ) :
    (outcome.andThen f).andThen g = outcome.andThen fun a => (f a).andThen g := by
  rcases outcome with ⟨notes, fault | a⟩
  · rfl
  · rcases h : f a with ⟨more, fault | b⟩ <;> simp [Outcome.andThen, h]

instance : LawfulMonad Noted := LawfulMonad.mk' Noted
  (by intro α x; ext1; funext voice; exact andThen_pure _)
  (by intro α β a f; ext1; funext voice; simp [Outcome.andThen])
  (by intro α β γ x f g; ext1; funext voice; exact andThen_assoc _ _ _)

end Noted

end Stencil
