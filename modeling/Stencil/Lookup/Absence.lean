import Stencil.Fault

/-!
# Absent members

The reasons why a lookup finds nothing, and their wording.
-/

namespace Stencil

/-- Why a name or a path leads to no value. -/
inductive Absence
  | noMember (typeName name : String)
  | ofNothing (name : String)
  | unreadable (name typeName reason : String)
  | emptyPath
  | unresolved (walked : List String) (cause : Absence)
  | stated (text : String)
  deriving DecidableEq

namespace Absence

def text : Absence → String
  | noMember typeName name => typeName ++ " has no member " ++ Text.quoted name
  | ofNothing name => "Cannot read " ++ Text.quoted name ++ " from None"
  | unreadable name typeName reason =>
      "Error reading " ++ Text.quoted name ++ " from " ++ typeName ++ ": " ++ reason
  | emptyPath => "Empty property path"
  | unresolved walked cause =>
      "Unresolved path " ++ Text.quoted (".".intercalate walked) ++ ": " ++ cause.text
  | stated text => text

end Absence

end Stencil
