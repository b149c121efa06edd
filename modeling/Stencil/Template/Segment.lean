/-!
# Segments

A template is a sequence of segments: text that is copied, scopes that are opened on a member of the
current value and closed again, and members whose values are shown.
-/

namespace Stencil

inductive Segment
  | literal (text : String)
  | scopeOpen (name : String)
  | scopeClose
  | value (path : List String) (format : Option String)
  deriving DecidableEq

namespace Segment

/-- A path as it is written, with points between its names. -/
def dotted (path : List String) : String :=
  ".".intercalate path

/-- What every segment of a template satisfies: scopes have names, and paths are not empty. -/
def IsValid : Segment → Prop
  | literal _ => True
  | scopeOpen name => name ≠ ""
  | scopeClose => True
  | value path _ => path ≠ []

end Segment

end Stencil
