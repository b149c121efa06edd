import Stencil.Proofs.Journal.Outcome
import Stencil.Session

/-!
# Steps and runs of sessions

`Session.after` is the state that a run of steps ends in. A step is silent, or it speaks with one of the two engines,
which may have to be made first (`withOwn_of_ownEngine`); so a property that is kept in each of these ways is kept by the
step (`silently_keeps`, `speaking_keeps`, `withShared_keeps`, `withOwn_keeps`), and a property that every step keeps is
kept by the run (`after_keeps`).
-/

namespace Stencil

namespace Session

/-! ## Runs -/

/-- The session after some steps. -/
def after (session : Session) (steps : List Step) : Session :=
  steps.foldl (fun session step => (session.step step).session) session

@[simp] theorem after_nil (session : Session) : session.after [] = session := by
  rfl

@[simp] theorem after_cons (session : Session) (step : Step) (steps : List Step) :
    session.after (step :: steps) = (session.step step).session.after steps := by
  rfl

/-- What every step of a run keeps holds at its end. -/
theorem after_keeps {P : Session → Prop} {steps : List Step}
    (hstep : ∀ session step, step ∈ steps → P session → P (session.step step).session)
    {session : Session} (h : P session) : P (session.after steps) := by
  induction steps generalizing session with
  | nil => exact h
  | cons step steps ih =>
      refine ih ?_ (hstep session step List.mem_cons_self h)
      intro other next hnext
      exact hstep other next (List.mem_cons_of_mem step hnext)

/-! ## The ways a step is made -/

section Keeping

variable {P : Session → Prop} {session : Session}

theorem silently_keeps {α : Type} {x : Except Fault α} {changed : α → Session} (h : P session)
    (hchanged : ∀ a, P (changed a)) : P (session.silently (do return changed (← x))).session := by
  cases x with
  | ok a => exact hchanged a
  | error fault => exact h

theorem speaking_keeps {α : Type} {x : Noted α} {keep : α → Session} {answer : α → Answer}
    (h : P session) (hkeep : ∀ a, P (keep a)) : P (session.speaking x keep answer).session := by
  unfold speaking
  split
  · exact hkeep _
  · exact h

theorem withShared_keeps {next : Session → Engine → StepResult} (h : P session)
    (hmade : session.shared = none → ∀ engine, P { session with shared := some engine })
    (hnext : ∀ other engine, P other → P (next other engine).session) :
    P (session.withShared next).session := by
  unfold withShared
  split
  · exact hnext _ _ h
  · next hnone =>
      split
      · exact hnext _ _ (hmade hnone _)
      · exact h

theorem withOwn_keeps {next : Session → Engine → StepResult} (h : P session)
    (hmade : session.own = none → ∀ engine, P { session with own := some engine })
    (hnext : ∀ other engine, P other → P (next other engine).session) :
    P (session.withOwn next).session := by
  unfold withOwn
  split
  · exact hnext _ _ h
  · next hnone =>
      split
      · exact hnext _ _ (hmade hnone _)
      · exact h

end Keeping

/-! ## The engine of a step -/

/-- The engine that a step with the session's own engine goes on with. -/
def ownEngine (session : Session) : Except Fault Engine :=
  match session.own with
  | some engine => .ok engine
  | none => EngineRequest.make {} session.settings

/-- Whether the engine was there or is made now, it is there in what follows. -/
theorem withOwn_of_ownEngine {session : Session} {engine : Engine} (h : session.ownEngine = .ok engine)
    (next : Session → Engine → StepResult) :
    session.withOwn next = next { session with own := some engine } engine := by
  obtain ⟨settings, shared, own, stored, source⟩ := session
  cases own with
  | some given =>
      cases h
      rfl
  | none =>
      change EngineRequest.make {} settings = .ok engine at h
      simp only [withOwn, h]

/-- A step that keeps nothing of what it computes leaves the session as it is, and answers with the computation. -/
theorem speaking_eq {α : Type} (session : Session) (x : Noted α) (answer : α → Answer) :
    session.speaking x (fun _ => session) answer =
      ⟨session, (answer <$> x).run session.settings.voice⟩ := by
  rw [Noted.run_map]
  unfold speaking Noted.notes Noted.result
  rcases x.run session.settings.voice with ⟨notes, fault | a⟩
  · rfl
  · rfl

end Session

end Stencil
