import Stencil.Proofs.Journal.Silencing
import Stencil.Proofs.Session.Steps
import Mathlib.Data.List.Forall2

/-!
# Silencing in sessions

Between the steps of a session, segments can be rendered, paths followed and values shown on their own; all of these are
calls, and every call speaks with the voice of the settings that are in force. `Session.runAloud` is the run of some calls
in which nothing is ever silenced.

Two sessions are alike but for their voices if they are the same once both are made loud, and two calls are if they are
the same, or read settings that are alike. Such sessions answer such calls in the same way, but for the notes that are
silenced (`Session.answerTo_eq_heard`), and stay alike (`Session.loud_afterCall`); so the answers of a whole run are those
of the run aloud, each heard in the voice that was in force (`Session.silencing_only_removes_notes`).
-/

namespace Stencil

/-- The settings with nothing silenced. -/
def Settings.loud (settings : Settings) : Settings :=
  { settings with voice := .full }

/-- Something that is done in a session: one of its steps, or something that needs no engine. -/
inductive Call
  | step (step : Step)
  | render (resolver : Resolver) (segments : List Segment) (source : Value)
  | walk (resolver : Resolver) (target : Value) (path : List String)
  | showWith (value : Value) (format : Option String)

/-- What a call answers. -/
inductive Reply
  | answer (answer : Answer)
  | text (text : String)
  | found (found : Found)

/-- Two calls differ in the flags of the settings they read at most: one is refused if the other is, for the same
reason, and they set the same marks and the same keyword. -/
inductive Call.SameButVoice : Call → Call → Prop
  | refl (call : Call) : SameButVoice call call
  | configure {named others : Fields} {environment surroundings : List (String × String)}
      (h : Settings.loud <$> Settings.read named environment =
        Settings.loud <$> Settings.read others surroundings) :
      SameButVoice (.step (.configure named environment)) (.step (.configure others surroundings))

/-- Settings that are read alike are refused for the same reason, or differ in their flags at most. -/
theorem Settings.loud_map_eq_iff {first second : Except Fault Settings} :
    Settings.loud <$> first = Settings.loud <$> second ↔
      (∃ fault, first = .error fault ∧ second = .error fault) ∨
        ∃ settings others, first = .ok settings ∧ second = .ok others ∧ settings.loud = others.loud := by
  cases first with
  | error fault =>
      cases second with
      | error other => simp [eq_comm]
      | ok others => simp
  | ok settings =>
      cases second with
      | error other => simp
      | ok others => simp

namespace Session

/-! ## Runs of calls -/

/-- The answer to a call, with the notes that are heard. -/
def answerTo (session : Session) : Call → Outcome Reply
  | .step step =>
      let outcome := (session.step step).outcome
      ⟨outcome.notes, Reply.answer <$> outcome.result⟩
  | .render resolver segments source =>
      (Reply.text <$> resolver.lookup.render segments source).run session.settings.voice
  | .walk resolver target path =>
      (Reply.found <$> resolver.lookup.walk target path).run session.settings.voice
  | .showWith value format => (Reply.text <$> value.showWith format).run session.settings.voice

/-- The session after a call; only steps change it. -/
def afterCall (session : Session) : Call → Session
  | .step step => (session.step step).session
  | _ => session

/-- The answers to some calls, one after the other. -/
def runCalls (session : Session) : List Call → List (Outcome Reply)
  | [] => []
  | call :: calls => session.answerTo call :: (session.afterCall call).runCalls calls

/-- The voices in which some calls are answered. -/
def voices (session : Session) : List Call → List Voice
  | [] => []
  | call :: calls => session.settings.voice :: (session.afterCall call).voices calls

/-- A session in which nothing is silenced. -/
def loud (session : Session) : Session :=
  { session with settings := session.settings.loud }

/-- The answers to some calls, one after the other, where before each of them both flags are taken back. -/
def runAloud (session : Session) : List Call → List (Outcome Reply)
  | [] => []
  | call :: calls => session.loud.answerTo call :: (session.loud.afterCall call).runAloud calls

/-- Two sessions differ in the flags of their settings at most. -/
def SameButVoice (session other : Session) : Prop :=
  session.loud = other.loud

/-! ## Steps -/

/-- What a step leaves behind is heard in a voice of what another one leaves behind, and the sessions differ in their
flags at most. -/
structure HeardAs (voice : Voice) (quiet loud : StepResult) : Prop where
  outcome : quiet.outcome = loud.outcome.heard voice
  session : quiet.session.SameButVoice loud.session

section Steps

variable {session : Session}

theorem silently_heardAs (session : Session) (voice : Voice) {α : Type} (x : Except Fault α) {changed raised : α → Session}
    (h : ∀ a, (changed a).SameButVoice (raised a)) :
    HeardAs voice (session.silently (do return changed (← x)))
      (session.loud.silently (do return raised (← x))) := by
  cases x with
  | ok a => exact ⟨rfl, h a⟩
  | error fault => exact ⟨rfl, rfl⟩

/-- What a computation says that only filters is heard in the voice of the settings. -/
theorem speaking_heardAs {α : Type} {x : Noted α} (hx : x.FiltersOnly) {keep raised : α → Session}
    (h : ∀ a, (keep a).SameButVoice (raised a)) (answer : α → Answer) :
    HeardAs session.settings.voice (session.speaking x keep answer)
      (session.loud.speaking x raised answer) := by
  have hloud : session.loud.settings.voice = .full := rfl
  unfold speaking
  rw [hloud, hx session.settings.voice]
  rcases x.run .full with ⟨notes, fault | a⟩
  · exact ⟨rfl, rfl⟩
  · exact ⟨rfl, h a⟩

/-- Settings ask for the same engine whatever their flags are. -/
theorem make_loud (session : Session) (request : EngineRequest) :
    request.make session.loud.settings = request.make session.settings := by
  rfl

theorem withShared_heardAs {next : Session → Engine → StepResult}
    (hnext : ∀ other engine, other.settings = session.settings →
      HeardAs session.settings.voice (next other engine) (next other.loud engine)) :
    HeardAs session.settings.voice (session.withShared next) (session.loud.withShared next) := by
  have hloud : session.loud.shared = session.shared := rfl
  rw [withShared, withShared, hloud, make_loud]
  cases session.shared with
  | some engine => exact hnext session engine rfl
  | none =>
      cases EngineRequest.make {} session.settings with
      | ok engine => exact hnext { session with shared := some engine } engine rfl
      | error fault => exact ⟨rfl, rfl⟩

theorem withOwn_heardAs {next : Session → Engine → StepResult}
    (hnext : ∀ other engine, other.settings = session.settings →
      HeardAs session.settings.voice (next other engine) (next other.loud engine)) :
    HeardAs session.settings.voice (session.withOwn next) (session.loud.withOwn next) := by
  have hloud : session.loud.own = session.own := rfl
  rw [withOwn, withOwn, hloud, make_loud]
  cases session.own with
  | some engine => exact hnext session engine rfl
  | none =>
      cases EngineRequest.make {} session.settings with
      | ok engine => exact hnext { session with own := some engine } engine rfl
      | error fault => exact ⟨rfl, rfl⟩

/-- A step in a session is the step in the loud session, as it is heard. -/
theorem step_heardAs (session : Session) (step : Step) :
    HeardAs session.settings.voice (session.step step) (session.loud.step step) := by
  cases step with
  | configure named environment =>
      exact silently_heardAs session _ (Settings.read named environment) fun settings => rfl
  | makeEngine request =>
      exact silently_heardAs { session with own := none } _ (request.make session.settings) fun engine => rfl
  | setSource value => exact ⟨rfl, rfl⟩
  | put path value => exact silently_heardAs session _ (session.source.put path value) fun source => rfl
  | applyShared template =>
      rw [step, step]
      refine withShared_heardAs fun other engine hother => ?_
      rw [← hother]
      refine speaking_heardAs (engine.filtersOnly_apply template other.source) ?_ .text
      intro text
      rfl
  | setGrammar field text =>
      rw [step, step]
      exact withOwn_heardAs fun other engine hother => ⟨rfl, rfl⟩
  | setResolver resolver =>
      rw [step, step]
      exact withOwn_heardAs fun other engine hother => ⟨rfl, rfl⟩
  | apply template =>
      rw [step, step]
      refine withOwn_heardAs fun other engine hother => ?_
      rw [← hother]
      refine speaking_heardAs (engine.filtersOnly_apply template other.source) ?_ .text
      intro text
      rfl
  | parse template =>
      rw [step, step]
      refine withOwn_heardAs fun other engine hother => ?_
      rw [← hother]
      refine speaking_heardAs (engine.grammar.filtersOnly_parse template) ?_ .segments
      intro segments
      rfl
  | render =>
      rw [step, step]
      refine withOwn_heardAs fun other engine hother => ?_
      rw [← hother]
      refine speaking_heardAs (engine.filtersOnly_render other.stored other.source) ?_ .text
      intro text
      rfl

end Steps

/-! ## Calls -/

/-- The answer to a call is the one in the loud session, as it is heard in the voice of the settings. -/
theorem answerTo_eq_heard (session : Session) (call : Call) :
    session.answerTo call = (session.loud.answerTo call).heard session.settings.voice := by
  cases call with
  | step step =>
      have hstep := (session.step_heardAs step).outcome
      simp only [answerTo, hstep]
      rfl
  | render resolver segments source =>
      exact ((Lookup.filtersOnly_render resolver.filtersOnly segments source).map Reply.text) _
  | walk resolver target path =>
      exact ((Lookup.filtersOnly_walk resolver.filtersOnly target path).map Reply.found) _
  | showWith value format => exact ((value.filtersOnly_showWith format).map Reply.text) _

/-- After a call, the session is the one after the same call in the loud session, but for the flags. -/
theorem loud_afterCall (session : Session) (call : Call) :
    (session.afterCall call).loud = (session.loud.afterCall call).loud := by
  cases call with
  | step step => exact (session.step_heardAs step).session
  | render resolver segments source => rfl
  | walk resolver target path => rfl
  | showWith value format => rfl

/-- The answers to alike calls are the same, and so are the sessions after them, but for the flags. -/
theorem answerTo_and_loud_afterCall_of_sameButVoice {call other : Call} (h : call.SameButVoice other)
    (session : Session) :
    session.answerTo call = session.answerTo other ∧
      (session.afterCall call).loud = (session.afterCall other).loud := by
  cases h with
  | refl => exact ⟨rfl, rfl⟩
  | configure h =>
      simp only [answerTo, afterCall, step]
      obtain ⟨fault, hfirst, hsecond⟩ | ⟨settings, others, hfirst, hsecond, hloud⟩ :=
        Settings.loud_map_eq_iff.mp h
      · rw [hfirst, hsecond]
        exact ⟨rfl, rfl⟩
      · rw [hfirst, hsecond]
        exact ⟨rfl, congrArg (fun settings => { session with settings }) hloud⟩

/-! ## Runs -/

section Runs

variable {session other : Session} {calls others : List Call}

/-- A run aloud asks for the session only, not for its flags. -/
theorem runAloud_of_sameButVoice (h : session.SameButVoice other) (calls : List Call) :
    session.runAloud calls = other.runAloud calls := by
  cases calls with
  | nil => rfl
  | cons call calls =>
      rw [SameButVoice] at h
      rw [runAloud, runAloud, h]

/-- After a call, a run aloud goes on as after the call in the loud session. -/
theorem runAloud_afterCall (session : Session) (call : Call) (calls : List Call) :
    (session.afterCall call).runAloud calls = (session.loud.afterCall call).runAloud calls :=
  runAloud_of_sameButVoice (session.loud_afterCall call) calls

/-- Alike sessions answer alike calls in the same way when nothing is silenced. -/
theorem runAloud_of_alike (hsession : session.SameButVoice other)
    (hcalls : List.Forall₂ Call.SameButVoice calls others) :
    session.runAloud calls = other.runAloud others := by
  induction hcalls generalizing session other with
  | nil => rfl
  | cons hcall hcalls ih =>
      obtain ⟨hanswer, hafter⟩ := answerTo_and_loud_afterCall_of_sameButVoice hcall other.loud
      rw [SameButVoice] at hsession
      rw [runAloud, runAloud, hsession, hanswer, ih hafter]

/-- The answers to some calls are those of the run aloud, each heard in the voice in force. -/
theorem runCalls_eq_heard (session : Session) (calls : List Call) :
    session.runCalls calls =
      List.zipWith Outcome.heard (session.voices calls) (session.runAloud calls) := by
  induction calls generalizing session with
  | nil => rfl
  | cons call calls ih =>
      rw [runCalls, voices, runAloud, List.zipWith_cons_cons, ← answerTo_eq_heard, ih,
        runAloud_afterCall]

/-- Calls end as they do in the run aloud. -/
theorem map_result_runCalls (session : Session) (calls : List Call) :
    (session.runCalls calls).map Outcome.result = (session.runAloud calls).map Outcome.result := by
  induction calls generalizing session with
  | nil => rfl
  | cons call calls ih =>
      rw [runCalls, runAloud, List.map_cons, List.map_cons, answerTo_eq_heard,
        Outcome.result_heard, ih, runAloud_afterCall]

/-- A run in which nothing is silenced is the run aloud. -/
theorem runCalls_eq_runAloud (h : ∀ voice, voice ∈ session.voices calls → voice = .full) :
    session.runCalls calls = session.runAloud calls := by
  induction calls generalizing session with
  | nil => rfl
  | cons call calls ih =>
      rw [voices, List.forall_mem_cons] at h
      rw [runCalls, runAloud, answerTo_eq_heard, h.1, Outcome.heard_full, ih h.2, runAloud_afterCall]

/-- For every two runs in alike sessions with alike calls, which is to say that they differ at most in the flags of the
settings in force, whether these are there at the start or are set in between: all calls end in the same values and
the same faults; both have the same run aloud, which is a run itself if no flag is ever set; and in each of them, what is
noted in a call is what is noted in the run aloud, in the same order, without the notes for tracing if the voice that is
in force at that call is quiet, and without the warnings if it does not complain. -/
theorem silencing_only_removes_notes (hsession : session.SameButVoice other)
    (hcalls : List.Forall₂ Call.SameButVoice calls others) :
    (session.runCalls calls).map Outcome.result = (other.runCalls others).map Outcome.result ∧
      session.runAloud calls = other.runAloud others ∧
      ((∀ voice, voice ∈ session.voices calls → voice = .full) →
        session.runCalls calls = session.runAloud calls) ∧
      session.runCalls calls =
        List.zipWith Outcome.heard (session.voices calls) (session.runAloud calls) ∧
      other.runCalls others =
        List.zipWith Outcome.heard (other.voices others) (session.runAloud calls) := by
  have haloud := runAloud_of_alike hsession hcalls
  refine ⟨?_, haloud, runCalls_eq_runAloud, session.runCalls_eq_heard calls, ?_⟩
  · rw [map_result_runCalls, map_result_runCalls, haloud]
  · rw [haloud]
    exact other.runCalls_eq_heard others

end Runs

/-- One run becomes quiet in its middle; the other one never complains. -/
theorem silencing_only_removes_notes_of_flag_set_between :
    let session : Session := {}
    let other : Session := { settings := { voice := { uncomplaining := true } } }
    let stray : Call := .render .entries [.scopeClose, .literal "a"] .nothing
    let refused : Call := .showWith (.list []) (some "0")
    let reason := "unsupported format string passed to list.__format__"
    let calls := [stray, refused, .step (.configure [("beQuiet", .boolean true)] []), stray, refused]
    let others :=
      [stray, refused, .step (.configure [("noComplain", .boolean true)] []), stray, refused]
    session.SameButVoice other ∧ List.Forall₂ Call.SameButVoice calls others ∧
      (session.runCalls calls).map Outcome.result = (other.runCalls others).map Outcome.result ∧
      (session.runAloud calls).map Outcome.notes = [[.strayClose],
        [.formatRefused "0" "list" reason], [], [.strayClose],
        [.formatRefused "0" "list" reason]] ∧
      (session.runCalls calls).map Outcome.notes = [[.strayClose],
        [.formatRefused "0" "list" reason], [], [.strayClose], []] ∧
      (other.runCalls others).map Outcome.notes = [[],
        [.formatRefused "0" "list" reason], [], [],
        [.formatRefused "0" "list" reason]] := by
  intro session other stray refused reason calls others
  have hsession : session.SameButVoice other := rfl
  have hread : Settings.loud <$> Settings.read [("beQuiet", .boolean true)] [] =
      Settings.loud <$> Settings.read [("noComplain", .boolean true)] [] := by
    with_unfolding_all rfl
  have hcalls : List.Forall₂ Call.SameButVoice calls others :=
    .cons (.refl stray) (.cons (.refl refused) (.cons (.configure hread)
      (.cons (.refl stray) (.cons (.refl refused) .nil))))
  obtain ⟨hresults, _, _, hcalls', hothers⟩ := silencing_only_removes_notes hsession hcalls
  have haloud : (session.runAloud calls).map Outcome.notes = [[.strayClose],
        [.formatRefused "0" "list" reason], [], [.strayClose],
        [.formatRefused "0" "list" reason]] := by
    with_unfolding_all rfl
  refine ⟨hsession, hcalls, hresults, haloud, ?_, ?_⟩
  · rw [hcalls']
    with_unfolding_all rfl
  · rw [hothers]
    with_unfolding_all rfl

end Session

end Stencil
