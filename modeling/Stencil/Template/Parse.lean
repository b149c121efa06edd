import Stencil.Journal.Noted
import Stencil.Template.Scan
import Stencil.Template.Token

/-!
# Reading templates

A template is scanned, the bodies of its tokens are read, and the pieces are joined to a list of
segments: pieces of text that become neighbours are merged, and empty ones are dropped.
-/

namespace Stencil

namespace Segment

/-- Puts a literal in front of some segments; it merges with a literal that is there. -/
def consLiteral (text : List Char) (segments : List Segment) : List Segment :=
  match segments with
  | literal next :: rest => literal (String.ofList text ++ next) :: rest
  | segments => if text.isEmpty then segments else literal (String.ofList text) :: segments

end Segment

namespace Grammar

/-- Classifies the body of a token. A body that has no path is noted. -/
def classify (g : Grammar) (body : List Char) : Noted (Option Segment) :=
  match g.readToken body with
  | .segment segment => pure (some segment)
  | .blank => pure none
  | .noPath => do
      Noted.note (.noPath (String.ofList body))
      pure none

def classifyAll (g : Grammar) : List Piece → Noted (List Segment)
  | [] => pure []
  | .literal text :: pieces => do
      return Segment.consLiteral text (← g.classifyAll pieces)
  | .token body :: pieces => do
      let segment ← g.classify body
      return segment.toList ++ (← g.classifyAll pieces)

/-- Reads a template. Nothing is noted about a template that is missing or empty. -/
def parse (g : Grammar) (template : Option String) : Noted (List Segment) :=
  match template with
  | none => pure []
  | some template =>
      if template = "" then pure []
      else do
        let scanned := g.scan template
        let segments ← g.classifyAll scanned.pieces
        if let some offset := scanned.unterminated then
          Noted.note (.unterminated offset)
        Noted.note (.parsed segments.length template.length)
        return segments

end Grammar

end Stencil
