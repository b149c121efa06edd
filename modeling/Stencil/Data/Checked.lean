import Stencil.Data.Value

/-!
# Checking fields

Fields that come from outside are values of any kind. A check gives the content of a field or the list of
all problems with it; checks of several fields report the problems of all of them, in order.
-/

namespace Stencil

/-- The content of a field, or its problems. -/
abbrev Checked := Except (List FieldError)

namespace Checked

def problem {α : Type} (field : String) (problem : FieldProblem) : Checked α :=
  .error [{ field, problem }]

/-- Two checks; if both fail, all problems are reported. -/
def both {α β : Type} (first : Checked α) (second : Checked β) : Checked (α × β) :=
  match first, second with
  | .ok a, .ok b => .ok (a, b)
  | .error errors, .ok _ => .error errors
  | .ok _, .error errors => .error errors
  | .error errors, .error more => .error (errors ++ more)

end Checked

/-- A value as a text: a text itself, or bytes that encode one. -/
def Value.asText? : Value → Option String
  | .text s => some s
  | .bytes encoded => String.fromUTF8? ⟨encoded.toArray⟩
  | _ => none

namespace Checked

/-- A field that must be a text. -/
def text (field : String) (given : Value) : Checked String :=
  match given.asText? with
  | some text => .ok text
  | none => problem field .notText

/-- The words for truth values, in small letters. -/
def truthWords : List (String × Bool) :=
  [("0", false), ("off", false), ("f", false), ("false", false), ("n", false), ("no", false),
    ("1", true), ("on", true), ("t", true), ("true", true), ("y", true), ("yes", true)]

/-- The truth value that a whole number stands for. -/
def truthOfInt? (n : Int) : Option Bool :=
  if n = 0 then some false else if n = 1 then some true else none

/-- A field that must be a truth value: one of the words for them, without regard to case, or a number
that is equal to zero or one. A number with a fraction is no truth value at all. -/
def boolean (field : String) (given : Value) : Checked Bool :=
  let readable := fun (b : Option Bool) => match b with
    | some b => Except.ok b
    | none => problem field .unreadableBoolean
  let binary := fun (x : Numeric.Binary64) => match x.toInt? with
    | some n => readable (truthOfInt? n)
    | none => problem field .notBoolean
  match given with
  | .boolean b => .ok b
  | .text word => readable (truthWords.lookup word.toLower)
  | .bytes _ => readable (given.asText?.bind fun word => truthWords.lookup word.toLower)
  | .integer n | .numberMember _ _ n =>
      if (Numeric.Binary64.ofInt? n).isNone then problem field .notBoolean
      else readable (truthOfInt? n)
  | .binary x => binary x
  | .decimal (.finite negative coefficient exponent) =>
      binary (.ofScientific negative coefficient exponent)
  | _ => problem field .notBoolean

end Checked

end Stencil
