import Stencil.Proofs.Session.Steps

/-!
# The shared engine

The shared engine of a session is made when a template is first applied with it, from the settings that are in
force then. If it cannot be made, there is none, and the next application tries again. Once it is there, no
step of the session changes it (`Session.shared_step`); so in a run, the shared engine is the one that was made
first (`Session.shared_engine_is_first_made`).
-/

namespace Stencil

/-- All the reasons why there is no grammar are bad values. -/
theorem Grammar.kind_of_make_eq_error {opening closing keyword : String} {fault : Fault}
    (h : Grammar.make opening closing keyword = .error fault) : fault.kind = .badValue := by
  unfold Grammar.make at h
  split at h
  · cases h
    rfl
  · split at h
    · cases h
      rfl
    · split at h
      · cases h
        rfl
      · cases h

namespace Session

/-! ## What a step does to the shared engine -/

/-- The engine that the settings ask for has their grammar and the standard resolver. -/
theorem make_eq_ok_iff {settings : Settings} {engine : Engine} :
    EngineRequest.make {} settings = .ok engine ↔
      settings.grammar none none none = .ok engine.grammar ∧ engine.resolver = .standard := by
  unfold EngineRequest.make
  cases settings.grammar none none none with
  | error fault =>
      constructor
      · intro h
        cases h
      · rintro ⟨h, -⟩
        cases h
  | ok grammar =>
      constructor
      · intro h
        cases h
        exact ⟨rfl, rfl⟩
      · obtain ⟨grammar, resolver⟩ := engine
        rintro ⟨h, rfl⟩
        cases h
        rfl

/-- Settings that give no grammar give no engine, for the same reason. -/
theorem make_eq_error {settings : Settings} {fault : Fault}
    (h : settings.grammar none none none = .error fault) :
    EngineRequest.make {} settings = .error fault := by
  unfold EngineRequest.make
  rw [h]
  rfl

/-- Only the application of a template with the shared engine can change that. -/
theorem shared_step_of_ne_applyShared (session : Session) {step : Step}
    (hstep : ∀ template, step ≠ .applyShared template) :
    (session.step step).session.shared = session.shared := by
  let P : Session → Prop := fun other => other.shared = session.shared
  change P (session.step step).session
  have hsession : P session := rfl
  cases step with
  | configure named environment => exact silently_keeps hsession fun settings => rfl
  | makeEngine request =>
      have hwithout : P { session with own := none } := rfl
      exact silently_keeps hwithout fun engine => rfl
  | setSource value => exact hsession
  | put path value => exact silently_keeps hsession fun source => rfl
  | applyShared template => exact absurd rfl (hstep template)
  | setGrammar field text =>
      exact withOwn_keeps hsession (fun _ engine => rfl) fun other engine hother => hother
  | setResolver resolver =>
      exact withOwn_keeps hsession (fun _ engine => rfl) fun other engine hother => hother
  | apply template =>
      exact withOwn_keeps hsession (fun _ engine => rfl) fun other engine hother =>
        speaking_keeps hother fun text => hother
  | parse template =>
      exact withOwn_keeps hsession (fun _ engine => rfl) fun other engine hother =>
        speaking_keeps hother fun segments => hother
  | render =>
      exact withOwn_keeps hsession (fun _ engine => rfl) fun other engine hother =>
        speaking_keeps hother fun text => hother

/-- With a shared engine a template is applied, and the session stays as it is. -/
theorem step_applyShared_of_some {session : Session} {engine : Engine}
    (h : session.shared = some engine) (template : Option String) :
    session.step (.applyShared template) =
      ⟨session, (Answer.text <$> engine.apply template session.source).run session.settings.voice⟩ := by
  rw [step, withShared, h]
  exact speaking_eq session _ .text

/-- Without a shared engine, the one that the settings ask for is made and applied. -/
theorem step_applyShared_of_made {session : Session} {engine : Engine} (h : session.shared = none)
    (hmade : EngineRequest.make {} session.settings = .ok engine) (template : Option String) :
    session.step (.applyShared template) = ⟨{ session with shared := some engine },
      (Answer.text <$> engine.apply template session.source).run session.settings.voice⟩ := by
  rw [step, withShared, h, hmade]
  exact speaking_eq { session with shared := some engine } _ .text

/-- Where the settings ask for an engine that cannot be made, nothing happens. -/
theorem step_applyShared_of_refused {session : Session} {fault : Fault} (h : session.shared = none)
    (hrefused : EngineRequest.make {} session.settings = .error fault) (template : Option String) :
    session.step (.applyShared template) = ⟨session, ⟨[], .error fault⟩⟩ := by
  rw [step, withShared, h, hrefused]

/-- What a step can do to the shared engine: it leaves it as it is, or makes it when there is none. -/
theorem shared_step (session : Session) (step : Step) :
    (session.step step).session.shared = session.shared ∨
      ∃ template engine, step = .applyShared template ∧ session.shared = none ∧
        EngineRequest.make {} session.settings = .ok engine ∧
        (session.step step).session.shared = some engine := by
  by_cases hstep : ∃ template, step = .applyShared template
  · obtain ⟨template, rfl⟩ := hstep
    cases hshared : session.shared with
    | some engine =>
        left
        rw [step_applyShared_of_some hshared, hshared]
    | none =>
        cases hmade : EngineRequest.make {} session.settings with
        | error fault =>
            left
            rw [step_applyShared_of_refused hshared hmade, hshared]
        | ok engine =>
            right
            refine ⟨template, engine, rfl, rfl, rfl, ?_⟩
            rw [step_applyShared_of_made hshared hmade]
  · left
    exact session.shared_step_of_ne_applyShared fun template h => hstep ⟨template, h⟩

/-! ## What a run does to the shared engine -/

/-- A shared engine stays for the rest of the run. -/
theorem shared_after_of_some {session : Session} {engine : Engine} (h : session.shared = some engine)
    (steps : List Step) : (session.after steps).shared = some engine := by
  refine after_keeps (P := fun other => other.shared = some engine) ?_ h
  intro other step _ hother
  rcases other.shared_step step with hsame | ⟨_, _, _, hnone, _⟩
  · rw [hsame, hother]
  · rw [hother] at hnone
    cases hnone

/-- A shared engine that is there after a run was made in it, when there was none. -/
theorem exists_made_of_shared_after {start : Session} (hstart : start.shared = none) {steps : List Step}
    {engine : Engine} (h : (start.after steps).shared = some engine) :
    ∃ before template between, steps = before ++ .applyShared template :: between ∧
      (start.after before).shared = none ∧
      EngineRequest.make {} (start.after before).settings = .ok engine := by
  induction steps generalizing start with
  | nil =>
      rw [after_nil, hstart] at h
      cases h
  | cons step steps ih =>
      rw [after_cons] at h
      rcases start.shared_step step with hsame | ⟨template, made, rfl, _, hmade, hshared⟩
      · obtain ⟨before, template, between, rfl, hnone, hmade⟩ := ih (hsame.trans hstart) h
        exact ⟨step :: before, template, between, rfl, hnone, hmade⟩
      · -- made in this step, so what is there at the end can only be this engine
        have hsame : made = engine := by
          rw [shared_after_of_some hshared] at h
          exact Option.some.inj h
        subst hsame
        exact ⟨[], template, steps, rfl, hstart, hmade⟩

/-- For every run of a session that starts without a shared engine. As long as there is none, applying a
template with it tries to make it from the settings in force: if they do not give a grammar, that is the answer,
a bad value, and there is still no shared engine; if they do, the engine with this grammar and the standard
resolver is there from then on, and answers. Once there is a shared engine, it is the one that was made so when
there was none; and whatever steps follow, applying a template gives what this engine gives for the template
and the data source of that moment. -/
theorem shared_engine_is_first_made {start : Session} (hstart : start.shared = none) (steps : List Step) :
    let session := start.after steps
    (session.shared = none → ∀ template,
      (∀ fault, session.settings.grammar none none none = .error fault →
        fault.kind = .badValue ∧ session.step (.applyShared template) = ⟨session, ⟨[], .error fault⟩⟩) ∧
      ∀ grammar, session.settings.grammar none none none = .ok grammar →
        let engine : Engine := ⟨grammar, .standard⟩
        session.step (.applyShared template) = ⟨{ session with shared := some engine },
          (Answer.text <$> engine.apply template session.source).run session.settings.voice⟩) ∧
    ∀ engine, session.shared = some engine →
      engine.resolver = .standard ∧
      (∃ before template between, steps = before ++ .applyShared template :: between ∧
        (start.after before).shared = none ∧
        (start.after before).settings.grammar none none none = .ok engine.grammar) ∧
      ∀ later template,
        let now := session.after later
        now.step (.applyShared template) = ⟨now,
          (Answer.text <$> engine.apply template now.source).run now.settings.voice⟩ := by
  intro session
  refine ⟨?_, ?_⟩
  · intro hnone template
    refine ⟨?_, ?_⟩
    · intro fault hfault
      refine ⟨Grammar.kind_of_make_eq_error hfault, ?_⟩
      exact step_applyShared_of_refused hnone (make_eq_error hfault) template
    · intro grammar hgrammar engine
      exact step_applyShared_of_made hnone (make_eq_ok_iff.mpr ⟨hgrammar, rfl⟩) template
  · intro engine hshared
    obtain ⟨before, template, between, hsteps, hnone, hmade⟩ := exists_made_of_shared_after hstart hshared
    obtain ⟨hgrammar, hresolver⟩ := make_eq_ok_iff.mp hmade
    refine ⟨hresolver, ⟨before, template, between, hsteps, hnone, hgrammar⟩, ?_⟩
    intro later template now
    exact step_applyShared_of_some (shared_after_of_some hshared later) template

/-- The settings go back to the standard marks after the first application, and the session makes an engine
of its own with other marks; the shared engine keeps the marks that it was made with. -/
theorem shared_engine_is_first_made_of_changed_settings :
    let start : Session := { settings := { opening := "<", closing := ">" } }
    let steps : List Step := [.applyShared (some "<a>"), .configure [] [],
      .makeEngine { opening := some "(", closing := some ")" },
      .setSource (.mapping false [(.text "a", .text "Ada")])]
    start.shared = none ∧
      ((start.after steps).step (.applyShared (some "<a>[a]"))).outcome.result =
        .ok (.text "Ada[a]") := by
  intro start steps
  have hstart : start.shared = none := rfl
  have hmade : EngineRequest.make {} start.settings =
      .ok ⟨⟨['<'], ['>'], ['w', 'i', 't', 'h'], ['/', 'w', 'i', 't', 'h']⟩, .standard⟩ :=
    make_eq_ok_iff.mpr ⟨by decide, rfl⟩
  have hshared : (start.after steps).shared =
      some ⟨⟨['<'], ['>'], ['w', 'i', 't', 'h'], ['/', 'w', 'i', 't', 'h']⟩, .standard⟩ := by
    rw [after_cons, step_applyShared_of_made hstart hmade]
    exact shared_after_of_some rfl _
  have hfixed := (shared_engine_is_first_made hstart steps).2 _ hshared
  have hanswer := hfixed.2.2 [] (some "<a>[a]")
  rw [after_nil] at hanswer
  refine ⟨hstart, ?_⟩
  rw [hanswer]
  with_unfolding_all rfl

end Session

end Stencil
