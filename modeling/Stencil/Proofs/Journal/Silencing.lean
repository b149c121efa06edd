import Stencil.Engine
import Stencil.Proofs.Lookup.Contract

/-!
# Silencing

A voice decides which notes are heard, and nothing else: what a computation ends in does not depend on the voice, and
what it utters in a voice is what it utters in the full voice, without the notes of the levels that are silenced
(`Noted.FiltersOnly`). This holds of the note itself and is kept by sequences and by recovery, so it holds of everything
that is built from these: of every lookup of the library, of rendering, of reading templates and of engines.
-/

namespace Stencil

universe u

namespace Outcome

/-- What is heard of an outcome: its notes, without those for tracing if the voice is quiet, and without the warnings if
it does not complain. -/
def heard {α : Type u} (voice : Voice) (outcome : Outcome α) : Outcome α where
  notes := outcome.notes.filter fun note =>
    !(voice.quiet && note.level = .debug) && !(voice.uncomplaining && note.level = .warning)
  result := outcome.result

variable {α β : Type u} (voice : Voice)

@[simp] theorem result_heard (outcome : Outcome α) : (outcome.heard voice).result = outcome.result := by
  rfl

theorem heard_mk (notes : List Note) (result : Except Fault α) :
    (Outcome.mk notes result).heard voice = ⟨voice.filter notes, result⟩ := by
  unfold heard Voice.filter
  congr 2
  funext note
  cases note.level with
  | debug => simp [Voice.utters]
  | warning => simp [Voice.utters]

/-- In the full voice, all is heard. -/
theorem heard_full (outcome : Outcome α) : outcome.heard .full = outcome := by
  obtain ⟨notes, result⟩ := outcome
  simp [heard, Voice.full]

theorem heard_andThen (outcome : Outcome α) (next : α → Outcome β) :
    (outcome.andThen next).heard voice = (outcome.heard voice).andThen fun a => (next a).heard voice := by
  obtain ⟨notes, fault | a⟩ := outcome
  · rfl
  · simp [andThen, heard]

theorem heard_orElse (outcome : Outcome α) (next : Fault → Outcome α) :
    (outcome.orElse next).heard voice =
      (outcome.heard voice).orElse fun fault => (next fault).heard voice := by
  obtain ⟨notes, fault | a⟩ := outcome
  · simp [orElse, heard]
  · rfl

end Outcome

namespace Noted

variable {α β : Type u}

/-- A voice changes nothing of the computation but which of its notes are heard. -/
def FiltersOnly (x : Noted α) : Prop :=
  ∀ voice, x.run voice = (x.run .full).heard voice

namespace FiltersOnly

theorem ofExcept (result : Except Fault α) : (Noted.ofExcept result).FiltersOnly := by
  intro voice
  rfl

theorem pure (a : α) : (Pure.pure a : Noted α).FiltersOnly :=
  ofExcept (.ok a)

theorem fail (fault : Fault) : (Noted.fail fault : Noted α).FiltersOnly :=
  ofExcept (.error fault)

theorem note (n : Note) : (Noted.note n).FiltersOnly := by
  intro voice
  rw [run_note, run_note, ← Outcome.heard_mk .full, Outcome.heard_full, Outcome.heard_mk]

theorem bind {x : Noted α} {next : α → Noted β} (hx : x.FiltersOnly) (hnext : ∀ a, (next a).FiltersOnly) :
    (x >>= next).FiltersOnly := by
  intro voice
  rw [run_bind, run_bind, Outcome.heard_andThen, ← hx voice]
  congr 1
  funext a
  exact hnext a voice

theorem map (f : α → β) {x : Noted α} (hx : x.FiltersOnly) : (f <$> x).FiltersOnly := by
  rw [map_eq_pure_bind]
  exact hx.bind fun a => pure (f a)

theorem recover {x : Noted α} {next : Fault → Noted α} (hx : x.FiltersOnly)
    (hnext : ∀ fault, (next fault).FiltersOnly) : (x.recover next).FiltersOnly := by
  intro voice
  rw [run_recover, run_recover, Outcome.heard_orElse, ← hx voice]
  congr 1
  funext fault
  exact hnext fault voice

end FiltersOnly

end Noted

/-! ## Lookups -/

namespace Lookup

/-- Looking up a member, and noting what comes of it, only filters. -/
def FiltersOnly (look : Lookup) : Prop :=
  ∀ target name, (look target name).FiltersOnly

theorem filtersOnly_entries : entries.FiltersOnly := by
  intro target name
  unfold entries
  split
  · exact .pure _
  · split
    · exact .fail _
    · exact .pure _

theorem filtersOnly_attributes : attributes.FiltersOnly := by
  intro target name
  rw [attributes]
  split
  · exact .pure _
  · split
    · exact .pure _
    · refine (Noted.FiltersOnly.ofExcept _).bind fun _ => ?_
      exact (Noted.FiltersOnly.note _).bind fun _ => .pure _
    · split
      · exact .fail _
      · exact .pure _

/-- Filtering only is a contract among all values. -/
theorem contract_filtersOnly : Contract (fun _ => True) Noted.FiltersOnly where
  absent _ := .pure _
  found _ := .pure _
  bind := by
    intro first rest hfirst habsent hfound
    refine hfirst.bind ?_
    intro found
    cases found with
    | error absence => exact habsent absence
    | ok value => exact hfound value trivial

theorem FiltersOnly.keeps {look : Lookup} (h : look.FiltersOnly) :
    look.Keeps (fun _ => True) Noted.FiltersOnly :=
  fun target name _ => h target name

end Lookup

namespace Resolver

theorem filtersOnly (resolver : Resolver) : resolver.lookup.FiltersOnly :=
  fun target name =>
    keeps_of_leaves Lookup.contract_filtersOnly Lookup.filtersOnly_entries.keeps
      Lookup.filtersOnly_attributes.keeps .ofExcept resolver target name trivial

end Resolver

/-! ## Rendering -/

theorem Value.filtersOnly_showWith (value : Value) (format : Option String) :
    (value.showWith format).FiltersOnly := by
  cases format with
  | none => exact .ofExcept _
  | some format =>
      rw [Value.showWith]
      split
      · exact .ofExcept _
      · split
        · exact .fail _
        · split
          · exact .pure _
          · split
            · refine (Noted.FiltersOnly.ofExcept _).bind fun _ => ?_
              exact (Noted.FiltersOnly.note _).bind fun _ => .ofExcept _
            · exact .fail _

namespace Lookup

section Rendering

variable {look : Lookup} (hlook : look.FiltersOnly)
include hlook

theorem filtersOnly_walk (target : Value) (path : List String) : (look.walk target path).FiltersOnly :=
  hlook.keeps.walk contract_filtersOnly trivial path

theorem filtersOnly_enter (context : Value) (name : String) : (look.enter context name).FiltersOnly := by
  rw [enter]
  refine (hlook context name).bind ?_
  intro found
  cases found with
  | ok value => exact .pure _
  | error absence => exact (Noted.FiltersOnly.note _).bind fun _ => .pure _

theorem filtersOnly_showPath (context : Value) (path : List String) (format : Option String) :
    (look.showPath context path format).FiltersOnly := by
  rw [showPath]
  refine (filtersOnly_walk hlook context path).bind ?_
  intro found
  cases found with
  | ok value => exact value.filtersOnly_showWith format
  | error absence => exact (Noted.FiltersOnly.note _).bind fun _ => .pure _

theorem filtersOnly_renderIn (context : Value) (outer : List Value) (segments : List Segment) :
    (look.renderIn context outer segments).FiltersOnly := by
  induction segments generalizing context outer with
  | nil =>
      rw [renderIn]
      split
      · exact (Noted.FiltersOnly.note _).bind fun _ => .pure _
      · exact .pure _
  | cons segment segments ih =>
      cases segment with
      | literal text =>
          rw [renderIn]
          exact (ih context outer).bind fun _ => .pure _
      | scopeOpen name =>
          rw [renderIn]
          exact (filtersOnly_enter hlook context name).bind fun inner => ih inner (context :: outer)
      | scopeClose =>
          cases outer with
          | cons enclosing outer =>
              rw [renderIn]
              exact ih enclosing outer
          | nil =>
              rw [renderIn]
              exact (Noted.FiltersOnly.note _).bind fun _ => ih context []
      | value path format =>
          rw [renderIn]
          exact (filtersOnly_showPath hlook context path format).bind fun _ =>
            (ih context outer).bind fun _ => .pure _

theorem filtersOnly_render (segments : List Segment) (source : Value) :
    (look.render segments source).FiltersOnly :=
  (filtersOnly_renderIn hlook source [] segments).bind fun _ => .pure _

end Rendering

end Lookup

/-! ## Reading templates -/

namespace Grammar

theorem filtersOnly_classify (g : Grammar) (body : List Char) : (g.classify body).FiltersOnly := by
  rw [classify]
  split
  · exact .pure _
  · exact .pure _
  · exact (Noted.FiltersOnly.note _).bind fun _ => .pure _

theorem filtersOnly_classifyAll (g : Grammar) (pieces : List Piece) : (g.classifyAll pieces).FiltersOnly := by
  induction pieces with
  | nil => exact .pure _
  | cons piece pieces ih =>
      cases piece with
      | literal text => exact ih.bind fun _ => .pure _
      | token body => exact (g.filtersOnly_classify body).bind fun _ => ih.bind fun _ => .pure _

theorem filtersOnly_parse (g : Grammar) (template : Option String) : (g.parse template).FiltersOnly := by
  cases template with
  | none => exact .pure _
  | some template =>
      rw [parse]
      split
      · exact .pure _
      · refine (g.filtersOnly_classifyAll _).bind ?_
        intro segments
        have hparsed : (do
            Noted.note (.parsed segments.length template.length)
            return segments).FiltersOnly :=
          (Noted.FiltersOnly.note _).bind fun _ => .pure _
        dsimp only
        split
        · exact (Noted.FiltersOnly.note _).bind fun _ => hparsed
        · exact hparsed

end Grammar

/-! ## Engines -/

namespace Engine

variable (engine : Engine)

theorem filtersOnly_render (segments : List Segment) (source : Value) :
    (engine.render segments source).FiltersOnly :=
  Lookup.filtersOnly_render engine.resolver.filtersOnly segments source

theorem filtersOnly_apply (template : Option String) (source : Value) :
    (engine.apply template source).FiltersOnly := by
  rw [apply]
  split
  · exact .pure _
  · refine Noted.FiltersOnly.recover ?_ fun fault => (Noted.FiltersOnly.ofExcept _).bind fun _ =>
      (Noted.FiltersOnly.note _).bind fun _ => .pure _
    exact (engine.grammar.filtersOnly_parse template).bind fun segments =>
      engine.filtersOnly_render segments source

end Engine

end Stencil
