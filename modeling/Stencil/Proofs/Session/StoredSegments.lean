import Stencil.Proofs.Engine
import Stencil.Proofs.Session.Steps
import Stencil.Proofs.Template.Parse

/-!
# Segments that are stored

The segments that a session stores depend on the template and on the grammar of its engine, and on nothing else:
neither on the voice in which the template is read (`Grammar.exists_result_parse`), nor on any step that leaves the
grammar and the segments alone (`Session.Stores.after`). So they can be rendered whenever that is convenient: it
gives what applying the engine to the template gives at that moment, up to the faults, which applying recovers from
(`Session.apply_eq_render_stored`).
-/

namespace Stencil

/-- A note for tracing is uttered unless the voice is quiet. -/
theorem Voice.filter_of_debug (voice : Voice) {note : Note} (h : note.level = .debug) :
    voice.filter [note] = if voice.quiet then [] else [note] := by
  rw [filter, List.filter_singleton, h, utters]
  cases voice.quiet
  · rfl
  · rfl

/-- In all voices a template is read as the same segments. -/
theorem Grammar.exists_result_parse (g : Grammar) (template : Option String) :
    ∃ segments, ∀ voice, (g.parse template).result voice = .ok segments := by
  cases template with
  | none => exact ⟨[], fun voice => rfl⟩
  | some template => exact ⟨_, g.result_parse template⟩

/-- Whether a step leaves the grammar of the session's own engine alone, and the segments that are stored. -/
def Step.keepsReading : Step → Bool
  | .makeEngine _ | .setGrammar _ _ | .parse _ => false
  | _ => true

namespace Session

variable {session : Session} {engine : Engine} {grammar : Grammar} {segments : List Segment}

/-! ## Steps with an engine -/

theorem step_parse (h : session.ownEngine = .ok engine) {template : Option String}
    (hparse : (engine.parse template).result session.settings.voice = .ok segments) :
    session.step (.parse template) = ⟨{ session with own := some engine, stored := segments },
      ⟨(engine.parse template).notes session.settings.voice, .ok (.segments segments)⟩⟩ := by
  rw [step, withOwn_of_ownEngine h, speaking]
  unfold Noted.notes
  unfold Noted.result at hparse
  rcases hrun : (engine.parse template).run session.settings.voice with ⟨notes, result⟩
  rw [hrun] at hparse
  subst hparse
  rfl

theorem step_apply (h : session.ownEngine = .ok engine) (template : Option String) :
    session.step (.apply template) = ⟨{ session with own := some engine },
      (Answer.text <$> engine.apply template session.source).run session.settings.voice⟩ := by
  rw [step, withOwn_of_ownEngine h]
  exact speaking_eq { session with own := some engine } _ .text

theorem step_render (h : session.ownEngine = .ok engine) :
    session.step .render = ⟨{ session with own := some engine },
      (Answer.text <$> engine.render session.stored session.source).run session.settings.voice⟩ := by
  rw [step, withOwn_of_ownEngine h]
  exact speaking_eq { session with own := some engine } _ .text

/-- Where rendering what is stored ends in a fault, this is a fault of the engine. -/
theorem result_render_of_error (hengine : session.ownEngine = .ok engine) {fault : Fault}
    (h : (session.step .render).outcome.result = .error fault) :
    (engine.render session.stored session.source).result session.settings.voice = .error fault := by
  rw [step_render hengine, Noted.run_map] at h
  cases hrender : (engine.render session.stored session.source).result session.settings.voice with
  | ok text =>
      rw [hrender] at h
      cases h
  | error other =>
      rw [hrender] at h
      cases h
      rfl

/-! ## Segments of a template, and the template -/

section Applying

variable {template : Option String} (hengine : session.ownEngine = .ok engine)
  (hstored : (engine.parse template).result session.settings.voice = .ok session.stored)
include hengine hstored

theorem outcome_apply_of_render_ok {answer : Answer}
    (h : (session.step .render).outcome.result = .ok answer) :
    (session.step (.apply template)).outcome =
      ⟨(engine.parse template).notes session.settings.voice ++ (session.step .render).outcome.notes,
        .ok answer⟩ := by
  rw [step_render hengine, Noted.run_map] at h ⊢
  cases hrender : (engine.render session.stored session.source).result session.settings.voice with
  | error fault =>
      rw [hrender] at h
      cases h
  | ok text =>
      rw [hrender] at h
      cases h
      rw [step_apply hengine,
        Noted.run_map_of_ok Answer.text (Engine.run_apply_of_ok hstored hrender)]

section Faults

variable {fault : Fault} (h : (session.step .render).outcome.result = .error fault)
include h

theorem outcome_apply_of_render_caught {reason : String} (hcaught : fault.caught = .ok reason) :
    (session.step (.apply template)).outcome =
      ⟨(engine.parse template).notes session.settings.voice ++ (session.step .render).outcome.notes ++
        session.settings.voice.filter [.applyFailed reason], .ok (.text "")⟩ := by
  have hrun := Engine.run_apply_of_caught hstored (result_render_of_error hengine h) hcaught
  rw [step_apply hengine, step_render hengine, Noted.run_map_of_ok Answer.text hrun, Noted.run_map]

theorem outcome_apply_of_render_escaping {escaping : Fault} (hcaught : fault.caught = .error escaping) :
    (session.step (.apply template)).outcome =
      ⟨(engine.parse template).notes session.settings.voice ++ (session.step .render).outcome.notes,
        .error escaping⟩ := by
  have hrun := Engine.run_apply_of_escaping hstored (result_render_of_error hengine h) hcaught
  rw [step_apply hengine, step_render hengine, Noted.run_map, Noted.run_map, Noted.notes, Noted.result, hrun]
  rfl

end Faults

end Applying

/-! ## What is stored -/

/-- The session has an engine with this grammar, and these segments are stored in it. -/
structure Stores (session : Session) (grammar : Grammar) (segments : List Segment) : Prop where
  own : ∃ resolver, session.own = some ⟨grammar, resolver⟩
  stored : session.stored = segments

theorem ownEngine_of_some (h : session.own = some engine) : session.ownEngine = .ok engine := by
  rw [ownEngine, h]

namespace Stores

theorem step (h : session.Stores grammar segments) {step : Step} (hstep : step.keepsReading) :
    (session.step step).session.Stores grammar segments := by
  obtain ⟨resolver, hown⟩ := h.own
  have hengine : session.ownEngine = .ok ⟨grammar, resolver⟩ := ownEngine_of_some hown
  let P : Session → Prop := fun other => other.Stores grammar segments
  change P (session.step step).session
  have hsession : P session := h
  cases step with
  | configure named environment => exact silently_keeps hsession fun settings => ⟨h.own, h.stored⟩
  | makeEngine request => cases hstep
  | setSource value => exact ⟨h.own, h.stored⟩
  | put path value => exact silently_keeps hsession fun source => ⟨h.own, h.stored⟩
  | applyShared template =>
      refine withShared_keeps hsession (fun _ shared => ⟨h.own, h.stored⟩) ?_
      intro other shared hother
      exact speaking_keeps hother fun text => hother
  | setGrammar field text => cases hstep
  | setResolver other =>
      rw [Session.step, withOwn_of_ownEngine hengine]
      exact ⟨⟨other, rfl⟩, h.stored⟩
  | apply template =>
      rw [step_apply hengine]
      exact ⟨⟨resolver, rfl⟩, h.stored⟩
  | parse template => cases hstep
  | render =>
      rw [step_render hengine]
      exact ⟨⟨resolver, rfl⟩, h.stored⟩

theorem after (h : session.Stores grammar segments) {steps : List Step}
    (hsteps : ∀ step, step ∈ steps → step.keepsReading) :
    (session.after steps).Stores grammar segments := by
  refine after_keeps (P := fun other => other.Stores grammar segments) ?_ h
  intro other step hmem hother
  exact hother.step (hsteps step hmem)

end Stores

/-! ## Rendering later -/

/-- A session reads a template, and goes on with any steps that neither make an engine nor change its grammar, nor
read another template; they may change the settings, the data source and the resolver. What was read is still stored
then. If rendering it ends in a text, applying the engine to the template ends in this text at that moment. If rendering
it ends in a fault that is caught and has a text, applying ends in an empty text, and a last note, for tracing, says that
it failed and why; of any other fault, applying ends in what escapes. Before that, applying notes what reading and
rendering note. -/
theorem apply_eq_render_stored (session : Session) {engine : Engine}
    (hengine : session.ownEngine = .ok engine) (template : Option String) {later : List Step}
    (hlater : ∀ step, step ∈ later → step.keepsReading) :
    let read := session.step (.parse template)
    let now := read.session.after later
    let voice := now.settings.voice
    let rendered := (now.step .render).outcome
    let applied := (now.step (.apply template)).outcome
    let noted := (engine.parse template).notes voice ++ rendered.notes
    (∃ segments resolver, read.outcome.result = .ok (.segments segments) ∧ now.stored = segments ∧
      now.own = some ⟨engine.grammar, resolver⟩) ∧
    (∀ answer, rendered.result = .ok answer → applied = ⟨noted, .ok answer⟩) ∧
    ∀ fault, rendered.result = .error fault →
      (∀ reason, fault.caught = .ok reason →
        applied = ⟨noted ++ if voice.quiet then [] else [.applyFailed reason], .ok (.text "")⟩ ∧
        (Note.applyFailed reason).level = .debug ∧
        (Note.applyFailed reason).text = "Error in apply: " ++ reason) ∧
      ∀ escaping, fault.caught = .error escaping → applied = ⟨noted, .error escaping⟩ := by
  intro read now voice rendered applied noted
  obtain ⟨segments, hparse⟩ := engine.grammar.exists_result_parse template
  have hread : read = _ := step_parse hengine (hparse session.settings.voice)
  have hstores : now.Stores engine.grammar segments := by
    refine Stores.after ?_ hlater
    rw [hread]
    exact ⟨⟨engine.resolver, rfl⟩, rfl⟩
  obtain ⟨resolver, hown⟩ := hstores.own
  let current : Engine := ⟨engine.grammar, resolver⟩
  have hcurrent : now.ownEngine = .ok current := ownEngine_of_some hown
  have hstored : (current.parse template).result voice = .ok now.stored := by
    rw [hstores.stored]
    exact hparse voice
  refine ⟨⟨segments, resolver, ?_, hstores.stored, hown⟩, ?_, ?_⟩
  · rw [hread]
  · intro answer hanswer
    exact outcome_apply_of_render_ok hcurrent hstored hanswer
  · intro fault hfault
    refine ⟨?_, fun escaping => outcome_apply_of_render_escaping hcurrent hstored hfault⟩
    intro reason hreason
    have hdebug : (Note.applyFailed reason).level = .debug := rfl
    refine ⟨?_, hdebug, rfl⟩
    rw [← voice.filter_of_debug hdebug]
    exact outcome_apply_of_render_caught hcurrent hstored hfault hreason

/-- The template is read, and then the data source, the settings and the resolver change; with the new resolver
rendering ends in a fault. -/
theorem apply_eq_render_stored_of_raising_resolver :
    let fault := Fault.raised .missingKey "b"
    let template := some "[with a]]b[/with]"
    let later : List Step := [.setSource (.mapping false [(.text "a", .text "Ada")]), .render,
      .configure [("tokenOpen", .text "<"), ("noComplain", .boolean true)] [],
      .setResolver (.raising fault)]
    let now := (({} : Session).step (.parse template)).session.after later
    (∃ engine, ({} : Session).ownEngine = .ok engine) ∧ (∀ step, step ∈ later → step.keepsReading) ∧
      (now.step .render).outcome = ⟨[], .error fault⟩ ∧
      (now.step (.apply template)).outcome =
        ⟨[.parsed 3 17, .applyFailed "'b'"], .ok (.text "")⟩ := by
  intro fault template later now
  have hengine : ({} : Session).ownEngine =
      .ok ⟨⟨['['], [']'], ['w', 'i', 't', 'h'], ['/', 'w', 'i', 't', 'h']⟩, .standard⟩ := by
    rfl
  have hlater : ∀ step, step ∈ later → step.keepsReading := by
    simp [later, Step.keepsReading]
  have hnow : now = {
      settings := { voice := { uncomplaining := true }, opening := "<" }
      own := some
        ⟨⟨['['], [']'], ['w', 'i', 't', 'h'], ['/', 'w', 'i', 't', 'h']⟩, .raising fault⟩
      stored := [.scopeOpen "a", .literal "]b", .scopeClose]
      source := .mapping false [(.text "a", .text "Ada")] } := by
    subst now later template fault
    with_unfolding_all rfl
  have hrendered : (now.step .render).outcome = ⟨[], .error fault⟩ := by
    rw [hnow]
    rfl
  have hresult : (now.step .render).outcome.result = .error fault := by
    rw [hrendered]
  have hagree := apply_eq_render_stored {} hengine template hlater
  have hcaught : fault.caught = .ok "'b'" := by
    decide +kernel
  have happlied := ((hagree.2.2 fault hresult).1 _ hcaught).1
  have hvoice : ((({} : Session).step (.parse template)).session.after later).settings.voice =
      { uncomplaining := true } := by
    exact congrArg (fun session => session.settings.voice) hnow
  refine ⟨⟨_, hengine⟩, hlater, hrendered, ?_⟩
  rw [happlied, hrendered, hvoice]
  subst template fault
  with_unfolding_all rfl

end Session

end Stencil
