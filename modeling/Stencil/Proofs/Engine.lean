import Stencil.Engine
import Stencil.Proofs.Render.Total

/-!
# Applying an engine to ordinary data

Reading a template never fails, and rendering does not fail on ordinary data, as long as the lookup is safe.
So an engine with a resolver of the library never has to recover from a fault when it is applied to ordinary
data, and gives exactly what reading and rendering give (`Engine.apply_eq_render_parse`).

What applying does otherwise is settled by what rendering ends in (`Engine.run_apply_of_ok`,
`Engine.run_apply_of_caught`, `Engine.run_apply_of_escaping`).
-/

namespace Stencil

open Noted (Ensures)

/-! ## Reading a template -/

namespace Grammar

variable (g : Grammar)

theorem ensures_classify (body : List Char) :
    (g.classify body).Ensures (fun _ => True) Note.IsHarmless := by
  unfold classify
  split
  · exact Ensures.pure trivial
  · exact Ensures.pure trivial
  · exact Ensures.bind (Ensures.note trivial) fun _ _ => Ensures.pure trivial

theorem ensures_classifyAll (pieces : List Piece) :
    (g.classifyAll pieces).Ensures (fun _ => True) Note.IsHarmless := by
  induction pieces with
  | nil => exact Ensures.pure trivial
  | cons piece pieces ih =>
      cases piece with
      | literal text => exact Ensures.bind ih fun _ _ => Ensures.pure trivial
      | token body =>
          refine Ensures.bind (g.ensures_classify body) fun segment _ => ?_
          exact Ensures.bind ih fun _ _ => Ensures.pure trivial

/-- Reading a template never fails. -/
theorem ensures_parse (template : Option String) :
    (g.parse template).Ensures (fun _ => True) Note.IsHarmless := by
  unfold parse
  cases template with
  | none => exact Ensures.pure trivial
  | some template =>
      dsimp only
      split
      · exact Ensures.pure trivial
      · refine Ensures.bind (g.ensures_classifyAll _) fun segments _ => ?_
        have hparsed : (do
            Noted.note (.parsed segments.length template.length)
            return segments : Noted (List Segment)).Ensures (fun _ => True) Note.IsHarmless :=
          Ensures.bind (Ensures.note trivial) fun _ _ => Ensures.pure trivial
        split
        · exact Ensures.bind (Ensures.note trivial) fun _ _ => hparsed
        · exact hparsed

theorem parse_of_empty {template : Option String} (h : template.getD "" = "") :
    g.parse template = pure [] := by
  cases template with
  | none => rfl
  | some template =>
      rw [Option.getD_some] at h
      rw [h]
      rfl

end Grammar

/-! ## Applying an engine -/

namespace Engine

variable {engine : Engine}

section Runs

variable {template : Option String} {source : Value} {voice : Voice} {segments : List Segment}
  (hparse : (engine.parse template).result voice = .ok segments)
include hparse

theorem eq_nil_of_parse_empty (hempty : template.getD "" = "") : segments = [] := by
  rw [Engine.parse, Grammar.parse_of_empty _ hempty] at hparse
  cases hparse
  rfl

/-- Where the segments of a template are rendered to a text, applying the engine gives that text, and utters
the notes of reading and of rendering. -/
theorem run_apply_of_ok {text : String}
    (hrender : (engine.render segments source).result voice = .ok text) :
    (engine.apply template source).run voice = ⟨(engine.parse template).notes voice ++
      (engine.render segments source).notes voice, .ok text⟩ := by
  unfold apply
  split
  · next hempty =>
      have hnil : segments = [] := eq_nil_of_parse_empty hparse hempty
      subst hnil
      cases hrender
      rw [Engine.parse, Grammar.parse_of_empty _ hempty]
      rfl
  · have hboth : (engine.parse template >>= fun segments => engine.render segments source).result
        voice = .ok text := by
      rw [Noted.result_bind, hparse, Noted.ok_bind, hrender]
    rw [Noted.run_recover_of_ok hboth]
    ext1
    · exact Noted.notes_bind_of_ok hparse _
    · exact hboth

section Faults

variable {fault : Fault} (hrender : (engine.render segments source).result voice = .error fault)
include hrender

/-- Where rendering the segments of a template ends in a fault, applying the engine goes on from the text that the
fault is reported with. -/
theorem run_apply_of_fault : (engine.apply template source).run voice =
    ⟨(engine.parse template).notes voice ++ (engine.render segments source).notes voice ++
      (Noted.ofExcept fault.caught >>= fun reason => do
        Noted.note (.applyFailed reason)
        pure "" : Noted String).notes voice,
      (fun _ => "") <$> fault.caught⟩ := by
  unfold apply
  split
  · next hempty =>
      have hnil : segments = [] := eq_nil_of_parse_empty hparse hempty
      subst hnil
      cases hrender
  · have hboth : (engine.parse template >>= fun segments => engine.render segments source).result
        voice = .error fault := by
      rw [Noted.result_bind, hparse, Noted.ok_bind, hrender]
    rw [Noted.run_recover_of_error hboth, Noted.notes_bind_of_ok hparse, Noted.result_bind,
      Noted.result_ofExcept]
    cases fault.caught with
    | ok reason => rfl
    | error escaping => rfl

/-- Where rendering the segments of a template ends in a fault that can be reported, applying the engine gives an
empty text, and utters the notes of reading, those of rendering, and one about the fault. -/
theorem run_apply_of_caught {reason : String} (hcaught : fault.caught = .ok reason) :
    (engine.apply template source).run voice = ⟨(engine.parse template).notes voice ++
      (engine.render segments source).notes voice ++ voice.filter [.applyFailed reason], .ok ""⟩ := by
  rw [run_apply_of_fault hparse hrender, hcaught, Noted.notes_bind_of_ok (Noted.result_ofExcept _ voice),
    Noted.notes_bind_of_ok (Noted.result_note _ voice), Noted.notes_pure, List.append_nil, Noted.notes_note]
  rfl

/-- Where rendering the segments of a template ends in a fault that cannot be reported, applying the engine ends in
what comes up instead. -/
theorem run_apply_of_escaping {escaping : Fault} (hcaught : fault.caught = .error escaping) :
    (engine.apply template source).run voice = ⟨(engine.parse template).notes voice ++
      (engine.render segments source).notes voice, .error escaping⟩ := by
  rw [run_apply_of_fault hparse hrender, hcaught, Noted.notes_bind_of_error (Noted.result_ofExcept _ voice)]
  exact congrArg (Outcome.mk · _) (List.append_nil _)

end Faults

end Runs

/-- Rendering a template ends in a fault that cannot be reported, and this fault comes up instead. -/
def RendersEscaping (engine : Engine) (template : Option String) (source : Value) (voice : Voice)
    (escaping : Fault) : Prop :=
  ∃ segments fault, (engine.parse template).result voice = .ok segments ∧
    (engine.render segments source).result voice = .error fault ∧ fault.caught = .error escaping

/-- Applying an engine ends in a text, whatever its resolver does, unless rendering ends in a fault that cannot be
reported. -/
theorem exists_result_apply (engine : Engine) (template : Option String) (source : Value) (voice : Voice) :
    (∃ text, (engine.apply template source).result voice = .ok text) ∨
      ∃ escaping, engine.RendersEscaping template source voice escaping ∧
        (engine.apply template source).result voice = .error escaping := by
  obtain ⟨⟨segments, hparse, _⟩, _⟩ := engine.grammar.ensures_parse template voice
  cases hrender : (engine.render segments source).result voice with
  | ok text => exact .inl ⟨text, by rw [Noted.result, run_apply_of_ok hparse hrender]⟩
  | error fault =>
      cases hcaught : fault.caught with
      | ok reason => exact .inl ⟨"", by rw [Noted.result, run_apply_of_caught hparse hrender hcaught]⟩
      | error escaping =>
          exact .inr ⟨escaping, ⟨segments, fault, hparse, hrender, hcaught⟩,
            by rw [Noted.result, run_apply_of_escaping hparse hrender hcaught]⟩

theorem isSafe_resolver
    (hresolver : engine.resolver = .standard ∨ engine.resolver = .entries ∨
      engine.resolver = .attributes) : engine.resolver.lookup.IsSafe := by
  rcases hresolver with h | h | h
  · rw [h]
    exact Resolver.isSafe_standard
  · rw [h]
    exact Resolver.isSafe_entries
  · rw [h]
    exact Resolver.isSafe_attributes

/-- An engine applied to ordinary data that there is room to show, in any grammar, with the standard resolver or one
of its two parts: for every template, reading ends in segments, rendering these ends in a text, and applying the engine
ends in the same text. That applying has failed is never noted. -/
theorem apply_eq_render_parse (engine : Engine)
    (hresolver : engine.resolver = .standard ∨ engine.resolver = .entries ∨
      engine.resolver = .attributes)
    (template : Option String) {source : Value} (hsource : source.IsOrdinary) (hcalls : source.calls ≤ Value.room)
    (voice : Voice) :
    ∃ segments text, (engine.parse template).result voice = .ok segments ∧
      (engine.render segments source).result voice = .ok text ∧
      (engine.apply template source).result voice = .ok text ∧
      ∀ reason, .applyFailed reason ∉ ((engine.apply template source).run voice).notes := by
  have hparse : (engine.parse template).Ensures (fun _ => True) Note.IsHarmless :=
    engine.grammar.ensures_parse template
  have hrender : ∀ segments, (engine.render segments source).Ensures (fun _ => True) Note.IsHarmless :=
    fun segments => (isSafe_resolver hresolver).render segments ⟨hsource, hcalls⟩
  obtain ⟨⟨segments, hsegments, _⟩, hreading⟩ := hparse voice
  obtain ⟨⟨text, htext, _⟩, hrendering⟩ := hrender segments voice
  have hrun := run_apply_of_ok hsegments htext
  refine ⟨segments, text, hsegments, htext, ?_, ?_⟩
  · rw [Noted.result, hrun]
  · intro reason hmem
    rw [hrun] at hmem
    rcases List.mem_append.mp hmem with hmem | hmem
    · exact hreading _ hmem
    · exact hrendering _ hmem

/-- A list with a number under a format that nothing takes, a decimal that no context accepts, and a record
with a property that raises a fault. -/
theorem apply_eq_render_parse_of_broken_property :
    ∃ segments text,
      let engine : Engine := ⟨⟨['['], [']'], ['a', 't'], ['/', 'a', 't']⟩, .standard⟩
      let source : Value := .mapping false [
        (.text "items", .list [.integer 3, .decimal (.nan false true 0)]),
        (.text "shop", .record .object "Shop" [("name", .text "Ada")] []
          [("owner", .raised (.other "RuntimeError") "closed")])]
      let template := some "[items \"d\"][shop.owner][at shop][name]"
      (engine.parse template).result {} = .ok segments ∧
        (engine.render segments source).result {} = .ok text ∧
        (engine.apply template source).result {} = .ok text ∧
        ∀ reason, .applyFailed reason ∉ ((engine.apply template source).run {}).notes := by
  refine apply_eq_render_parse _ (.inl rfl) _ (.mapping ?_ ?_) (by decide) {}
  · simp only [List.forall_mem_cons]
    exact ⟨.text _, .text _, by simp⟩
  · simp only [List.forall_mem_cons]
    refine ⟨.list ?_, .record ?_ ?_, by simp⟩
    · simp only [List.forall_mem_cons]
      exact ⟨.integer (by decide), .decimal _, by simp⟩
    · simp only [List.forall_mem_cons]
      exact ⟨.text _, by simp⟩
    · intro name fault hlookup
      rw [List.lookup_cons] at hlookup
      split at hlookup
      · next hname =>
          cases hlookup
          rw [beq_iff_eq] at hname
          subst hname
          exact ⟨by decide, rfl, .inr ⟨_, rfl⟩⟩
      · cases hlookup

/-- Data with which applying an engine fails, though they are built from the values of the library: lists that are
nested deeper than there is room for, records with a property that stands for a field or for the class, and one with a
property that raises what has no text. -/
theorem apply_notes_failure_on_unshowable_data :
    let engine : Engine := ⟨⟨['['], [']'], ['w', 'i', 't', 'h'], ['/', 'w', 'i', 't', 'h']⟩, .standard⟩
    let shop (broken : List (String × Fault)) : Value := .record .object "Shop" [("name", .text "Ada")] [] broken
    let data (value : Value) : Value := .mapping false [(.text "a", value)]
    let closed : Fault := .raised (.other "RuntimeError") "closed"
    (engine.apply (some "[a]") (data (.nestedLists 2000))).run {} =
        ⟨[.parsed 1 3, .applyFailed "maximum recursion depth exceeded while getting the repr of an object"], .ok ""⟩ ∧
      (engine.apply (some "[a]") (data (shop [("name", closed)]))).run {} =
        ⟨[.parsed 1 3, .applyFailed "closed"], .ok ""⟩ ∧
      (engine.apply (some "[a]") (data (shop [("__class__", closed)]))).run {} =
        ⟨[.parsed 1 3, .applyFailed "closed"], .ok ""⟩ ∧
      (engine.apply (some "[a.owner]") (data (shop [("owner", .wordless .badValue closed)]))).run {} =
        ⟨[.parsed 1 9, .applyFailed "closed"], .ok ""⟩ := by
  intro engine shop data closed
  have hparse : (engine.parse (some "[a]")).run {} = ⟨[.parsed 1 3], .ok [.value ["a"] none]⟩ := by
    with_unfolding_all rfl
  have hrender : ∀ (value : Value) (fault : Fault), value.plainText = .error fault →
      (engine.render [.value ["a"] none] (data value)).run {} = ⟨[], .error fault⟩ := by
    intro value fault hshown
    have hwalk : (engine.resolver.lookup.walk (data value) ["a"]).run {} = ⟨[], .ok (.ok value)⟩ := by
      rfl
    simp only [Engine.render, Lookup.render, Lookup.renderIn, Lookup.showPath, Noted.run_bind, hwalk,
      Value.showWith, hshown, Outcome.andThen]
    rfl
  have hdeep := hrender (.nestedLists 2000) .tooDeep (Value.literal_nestedLists_of_le (by decide))
  refine ⟨?_, ?_, ?_, ?_⟩
  · have hrun := run_apply_of_caught (congrArg Outcome.result hparse) (congrArg Outcome.result hdeep) rfl
    rw [hrun, Noted.notes, Noted.notes, hparse, hdeep]
    rfl
  · with_unfolding_all rfl
  · with_unfolding_all rfl
  · decide +kernel

end Engine

end Stencil
