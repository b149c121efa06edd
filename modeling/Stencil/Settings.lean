import Stencil.Data.Checked
import Stencil.Data.Member
import Stencil.Journal.Note
import Stencil.Template.Grammar

/-!
# Settings

The settings say which notes are silenced and what the grammar of new engines is. They are read from
values that are given by name, and for names that are not given from the variables of the environment that
start with `TPL_`, both without regard to case. Every field is checked on its own; names that are not known
are kept beside the settings.
-/

namespace Stencil

/-- The settings in force. -/
structure Settings where
  voice : Voice := {}
  opening : String := "["
  closing : String := "]"
  keyword : String := "with"
  deriving DecidableEq

namespace Settings

/-- The names of the settings. -/
def names : List String :=
  ["beQuiet", "noComplain", "tokenOpen", "tokenClose", "scopeKeyword"]

/-- A mark must be a single character. -/
def checkMark (field : String) (given : Value) : Checked String := do
  let text ← Checked.text field given
  if text.length ≠ 1 then Checked.problem field (.delimiterLength text) else pure text

/-- A keyword must not be empty nor hold blanks. -/
def checkKeyword (field : String) (given : Value) : Checked String := do
  let text ← Checked.text field given
  if isKeyword text then pure text else Checked.problem field (.keywordShape text)

/-- Whether two names differ in case at most. -/
def sameName (name other : String) : Bool :=
  name.toLower = other.toLower

/-- The value that is given by a name; the name as it is written comes before those that differ in case. -/
def byName? (named : Fields) (name : String) : Option Value :=
  Fields.find? named name <|> (List.find? (fun field => sameName field.1 name) named).map Prod.snd

/-- The value of a setting in the environment; of several names that differ in case only, the last one
counts. -/
def inEnvironment? (environment : List (String × String)) (name : String) : Option Value :=
  (environment.reverse.find? fun entry => sameName entry.1 ("TPL_" ++ name)).map
    fun entry => .text entry.2

/-- The value that is given for a setting, or else the one in the environment. -/
def given? (named : Fields) (environment : List (String × String)) (name : String) : Option Value :=
  byName? named name <|> inEnvironment? environment name

/-- A field of the settings: what is given for it, once it is checked, or else its standard content. -/
def field {α : Type} (check : String → Value → Checked α) (name : String) (standard : α)
    (given : String → Option Value) : Checked α :=
  match given name with
  | none => pure standard
  | some given => check name given

/-- The fields of the settings, all of them checked. -/
def checkFields (given : String → Option Value) : Checked (Bool × Bool × String × String × String) :=
  let standard : Settings := {}
  Checked.both (field Checked.boolean "beQuiet" standard.voice.quiet given) <|
  Checked.both (field Checked.boolean "noComplain" standard.voice.uncomplaining given) <|
  Checked.both (field checkMark "tokenOpen" standard.opening given) <|
  Checked.both (field checkMark "tokenClose" standard.closing given) <|
  field checkKeyword "scopeKeyword" standard.keyword given

/-- Reads the settings. -/
def read (named : Fields) (environment : List (String × String)) : Except Fault Settings :=
  match checkFields (given? named environment) with
  | .ok (quiet, uncomplaining, opening, closing, keyword) =>
      pure { voice := { quiet, uncomplaining }, opening, closing, keyword }
  | .error errors => throw (.invalidFields errors)

/-- The names that are no settings. -/
def extraNames (named : List String) : List String :=
  named.filter fun name => !names.any (sameName name)

/-- The grammar of new engines; marks and keyword that are not given are taken from the settings. -/
def grammar (settings : Settings) (opening closing keyword : Option String) : Except Fault Grammar :=
  Grammar.make (opening.getD settings.opening) (closing.getD settings.closing)
    (keyword.getD settings.keyword)

end Settings

end Stencil
