import Stencil.Engine
import Stencil.Settings
import Stencil.Template.Draft

/-!
# Sessions

A session is a sequence of steps on a state: the settings in force, the shared engine, which is made when
it is first used, an engine of the session's own, the segments that were read last, and a data source.
Settings act on notes at once, and on engines when these are made. A step that fails leaves the rest of the
session to go on.
-/

namespace Stencil

/-- The fields of a grammar that can be set after it was made. -/
inductive GrammarField
  | opening
  | closing
  | keyword
  | closer
  deriving DecidableEq

/-- Sets a field of a grammar. The keyword was built into the grammar when it was made, so setting it
changes nothing. -/
def Grammar.set (g : Grammar) (field : GrammarField) (text : String) : Grammar :=
  match field with
  | .opening => { g with opening := text.toList }
  | .closing => { g with closing := text.toList }
  | .keyword => g
  | .closer => { g with closer := text.toList }

/-- What an engine is made from; marks and keyword that are not given are taken from the settings. -/
structure EngineRequest where
  opening : Option String := none
  closing : Option String := none
  keyword : Option String := none
  resolver : Option Resolver := none

/-- The engine that is asked for. -/
def EngineRequest.make (request : EngineRequest) (settings : Settings) : Except Fault Engine := do
  let grammar ← settings.grammar request.opening request.closing request.keyword
  return { grammar, resolver := request.resolver.getD Resolver.standard }

/-- The state of a session. -/
structure Session where
  settings : Settings := {}
  shared : Option Engine := none
  own : Option Engine := none
  stored : List Segment := []
  source : Value := .nothing

/-- A step of a session. -/
inductive Step
  | configure (named : Fields) (environment : List (String × String))
  | makeEngine (request : EngineRequest)
  | setSource (value : Value)
  | put (path : List String) (value : Value)
  | applyShared (template : Option String)
  | setGrammar (field : GrammarField) (text : String)
  | setResolver (resolver : Resolver)
  | apply (template : Option String)
  | parse (template : Option String)
  | render

/-- What a step answers. -/
inductive Answer
  | done
  | text (text : String)
  | segments (segments : List Segment)
  deriving DecidableEq

namespace Session

/-- What a step leaves behind: the state after it, whether the step succeeded or not, and its answer. -/
structure StepResult where
  session : Session
  outcome : Outcome Answer

/-- A step that notes nothing: on success it changes the state. -/
def silently (session : Session) (result : Except Fault Session) : StepResult :=
  match result with
  | .ok changed => ⟨changed, ⟨[], .ok .done⟩⟩
  | .error fault => ⟨session, ⟨[], .error fault⟩⟩

/-- Runs a computation with the voice of the settings, and keeps its value if there is one. -/
def speaking {α : Type} (session : Session) (x : Noted α) (keep : α → Session) (answer : α → Answer) :
    StepResult :=
  match x.run session.settings.voice with
  | ⟨notes, .ok a⟩ => ⟨keep a, ⟨notes, .ok (answer a)⟩⟩
  | ⟨notes, .error fault⟩ => ⟨session, ⟨notes, .error fault⟩⟩

/-- Continues with the shared engine, which is made from the settings if there is none yet. -/
def withShared (session : Session) (next : Session → Engine → StepResult) : StepResult :=
  match session.shared with
  | some engine => next session engine
  | none => match EngineRequest.make {} session.settings with
      | .ok engine => next { session with shared := some engine } engine
      | .error fault => ⟨session, ⟨[], .error fault⟩⟩

/-- Continues with the session's own engine, which is made from the settings if there is none yet. -/
def withOwn (session : Session) (next : Session → Engine → StepResult) : StepResult :=
  match session.own with
  | some engine => next session engine
  | none => match EngineRequest.make {} session.settings with
      | .ok engine => next { session with own := some engine } engine
      | .error fault => ⟨session, ⟨[], .error fault⟩⟩

/-- Makes a step. -/
def step (session : Session) : Step → StepResult
  | .configure named environment =>
      session.silently (do return { session with settings := ← Settings.read named environment })
  | .makeEngine request =>
      let without := { session with own := none }
      without.silently (do return { session with own := some (← request.make session.settings) })
  | .setSource value => session.silently (pure { session with source := value })
  | .put path value =>
      session.silently (do return { session with source := ← session.source.put path value })
  | .applyShared template =>
      session.withShared fun session engine =>
        session.speaking (engine.apply template session.source) (fun _ => session) .text
  | .setGrammar field text =>
      session.withOwn fun session engine =>
        session.silently (pure { session with
          own := some { engine with grammar := engine.grammar.set field text } })
  | .setResolver resolver =>
      session.withOwn fun session engine =>
        session.silently (pure { session with own := some { engine with resolver } })
  | .apply template =>
      session.withOwn fun session engine =>
        session.speaking (engine.apply template session.source) (fun _ => session) .text
  | .parse template =>
      session.withOwn fun session engine =>
        session.speaking (engine.parse template) (fun segments => { session with stored := segments })
          .segments
  | .render =>
      session.withOwn fun session engine =>
        session.speaking (engine.render session.stored session.source) (fun _ => session) .text

/-- Makes some steps, one after the other. -/
def run (session : Session) : List Step → List (Outcome Answer)
  | [] => []
  | next :: steps =>
      let result := session.step next
      result.outcome :: run result.session steps

end Session

end Stencil
