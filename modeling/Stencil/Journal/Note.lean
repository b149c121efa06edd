import Stencil.Lookup.Absence

/-!
# Notes

While a template is read and filled, the library notes what it did and what it tolerated. A note is either
for tracing or a warning; a voice says which of the two levels are silenced.
-/

namespace Stencil

inductive Level
  | debug
  | warning
  deriving DecidableEq

inductive Note
  | parsed (segments characters : Nat)
  | noPath (body : String)
  | unreadable (absence : Absence)
  | formatRefused (format typeName reason : String)
  | applyFailed (reason : String)
  | unterminated (offset : Nat)
  | strayClose
  | openScopes (count : Nat)
  | missingScope (name : String) (absence : Absence)
  | emptyToken (path : List String) (absence : Absence)
  | message (level : Level) (text : String)
  deriving DecidableEq

namespace Note

/-- The level of a note: what a template loses is a warning, all else is for tracing. -/
def level : Note → Level
  | parsed _ _ | noPath _ | unreadable _ | formatRefused _ _ _ | applyFailed _ => .debug
  | unterminated _ | strayClose | openScopes _ | missingScope _ _ | emptyToken _ _ => .warning
  | message level _ => level

/-- A refused format, up to the reason. -/
def refusalText (format typeName : String) : String :=
  "Format " ++ Text.quoted format ++ " not applicable to " ++ typeName ++ ": "

def text : Note → String
  | parsed segments characters =>
      "Parsed " ++ toString segments ++ " segment(s) from " ++ toString characters ++ " character(s)"
  | noPath body => "Token has no property path: " ++ Text.quoted body
  | unreadable absence => absence.text
  | formatRefused format typeName reason => refusalText format typeName ++ reason
  | applyFailed reason => "Error in apply: " ++ reason
  | unterminated offset => "Unterminated token at offset " ++ toString offset ++ ", kept as text"
  | strayClose => "Ignoring scope close with no open scope"
  | openScopes count => toString count ++ " scope(s) left open at end of template"
  | missingScope name absence =>
      "Scope " ++ Text.quoted name ++ " opened on a missing member: " ++ absence.text
  | emptyToken path absence =>
      "Token " ++ Text.quoted (".".intercalate path) ++ " rendered empty: " ++ absence.text
  | message _ text => text

end Note

structure Voice where
  quiet : Bool := false
  uncomplaining : Bool := false
  deriving DecidableEq

namespace Voice

def full : Voice := {}

/-- Whether notes of a level are uttered. -/
def utters (voice : Voice) : Level → Bool
  | .debug => !voice.quiet
  | .warning => !voice.uncomplaining

def filter (voice : Voice) (notes : List Note) : List Note :=
  notes.filter fun note => voice.utters note.level

end Voice

end Stencil
