import Stencil.Render
import Stencil.Template.Parse

/-!
# Engines

An engine reads templates in one grammar and fills them by one resolver. Applying it catches the faults of
rendering: the fault is noted by its text, and the result is empty. Only a fault that is not caught, or that
has no text to be noted by, ends the application as well.
-/

namespace Stencil

structure Engine where
  grammar : Grammar
  resolver : Resolver := Resolver.standard

namespace Engine

/-- Reads a template. -/
def parse (engine : Engine) (template : Option String) : Noted (List Segment) :=
  engine.grammar.parse template

/-- Renders segments against a data source. -/
def render (engine : Engine) (segments : List Segment) (source : Value) : Noted String :=
  engine.resolver.lookup.render segments source

/-- Reads a template and renders it against a data source. A template that is missing or empty gives an
empty text. -/
def apply (engine : Engine) (template : Option String) (source : Value) : Noted String :=
  if template.getD "" = "" then pure ""
  else
    Noted.recover
      (do
        let segments ← engine.parse template
        engine.render segments source)
      fun fault => do
        let reason ← Noted.ofExcept fault.caught
        Noted.note (.applyFailed reason)
        pure ""

end Engine

end Stencil
