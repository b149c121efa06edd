import Stencil.Data.Format
import Stencil.Lookup.Resolver
import Stencil.Template.Segment

/-!
# Rendering

Segments are rendered one after the other, with a stack of values around them. Paths start at the value on
top. A scope puts a member of that value on top, or nothing if there is no such member, and closing the
scope takes it away again. The value at the bottom always stays; closing a scope that is not open is noted
and does nothing, and scopes that are still open at the end are noted as well.
-/

namespace Stencil

namespace Value

/-- Shows a value. To choose a format its type is tested; a format that does not apply to it is noted, and
its plain text is shown. -/
def showWith (value : Value) (format : Option String) : Noted String :=
  match format with
  | none => Noted.ofExcept value.plainText
  | some format =>
      if value.ignoresFormats then Noted.ofExcept value.plainText
      else
        match value.typeFault? with
        | some fault => Noted.fail fault
        | none =>
            match value.format format with
            | .ok shown => pure shown
            | .error fault =>
                if fault.kind.refusesFormat then do
                  let reason ← Noted.ofExcept fault.text
                  Noted.note (.formatRefused format value.typeName reason)
                  Noted.ofExcept value.plainText
                else Noted.fail fault

end Value

namespace Lookup

/-- The value that a scope opens on. A missing member is noted, and the scope opens on nothing. -/
def enter (look : Lookup) (context : Value) (name : String) : Noted Value := do
  match ← look context name with
  | .ok value => pure value
  | .error absence => do
      Noted.note (.missingScope name absence)
      pure .nothing

/-- The text of a value token. A path that leads nowhere is noted, and its text is empty. -/
def showPath (look : Lookup) (context : Value) (path : List String) (format : Option String) :
    Noted String := do
  match ← look.walk context path with
  | .ok value => value.showWith format
  | .error absence => do
      Noted.note (.emptyToken path absence)
      pure ""

/-- The texts of segments in a context, inside the contexts of the scopes that are open around it. -/
def renderIn (look : Lookup) (context : Value) (outer : List Value) :
    List Segment → Noted (List String)
  | [] => do
      if !outer.isEmpty then Noted.note (.openScopes outer.length)
      return []
  | .literal text :: segments => do
      return text :: (← look.renderIn context outer segments)
  | .scopeOpen name :: segments => do
      let inner ← look.enter context name
      look.renderIn inner (context :: outer) segments
  | .scopeClose :: segments =>
      match outer with
      | enclosing :: outer => look.renderIn enclosing outer segments
      | [] => do
          Noted.note .strayClose
          look.renderIn context [] segments
  | .value path format :: segments => do
      let text ← look.showPath context path format
      return text :: (← look.renderIn context outer segments)

/-- Renders segments against a data source. -/
def render (look : Lookup) (segments : List Segment) (source : Value) : Noted String := do
  return String.join (← look.renderIn source [] segments)

end Lookup

end Stencil
