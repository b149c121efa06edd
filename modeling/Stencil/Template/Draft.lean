import Stencil.Data.Checked
import Stencil.Template.Segment

/-!
# Drafts of segments

A segment that comes from outside is a draft: its fields are values of any kind, and some may be missing.
A draft becomes a segment when its fields have the right types and are not empty; otherwise every problem
is reported, in the order of the fields. What is no segment at all is left out.
-/

namespace Stencil

/-- A segment whose fields have not been checked. -/
inductive Draft
  | literal (text : Option Value)
  | scopeOpen (name : Option Value)
  | scopeClose
  | value (path format : Option Value)
  | foreign

namespace Draft

/-- A field that must be there and hold a text. -/
def checkText (field : String) : Option Value → Checked String
  | none => Checked.problem field .missing
  | some given => Checked.text field given

/-- A field that must hold a text with at least one character. -/
def checkName (field : String) (given : Option Value) : Checked String := do
  let name ← checkText field given
  if name = "" then Checked.problem field .emptyText else pure name

/-- A field that holds a text or nothing. -/
def checkOptionalText (field : String) : Option Value → Checked (Option String)
  | none | some .nothing => pure none
  | some given => some <$> Checked.text field given

/-- The entries of a list that are no texts, from an index on. -/
def entryErrors (field : String) (index : Nat) : List Value → List FieldError
  | [] => []
  | item :: items =>
      if item.asText?.isSome then entryErrors field (index + 1) items
      else { field, entry := some index, problem := .notText } :: entryErrors field (index + 1) items

/-- A list of at least one text. -/
def checkItems (field : String) (items : List Value) : Checked (List String) :=
  let errors := entryErrors field 0 items
  if !errors.isEmpty then .error errors
  else if items.isEmpty then Checked.problem field .emptyList
  else pure (items.filterMap Value.asText?)

/-- A field that must hold a path. -/
def checkPath (field : String) : Option Value → Checked (List String)
  | none => Checked.problem field .missing
  | some (.list items) | some (.tuple items) => checkItems field items
  | some _ => Checked.problem field .notList

/-- The segment that a draft stands for, if it is one. -/
def toSegment? : Draft → Checked (Option Segment)
  | literal text => do return some (.literal (← checkText "text" text))
  | scopeOpen name => do return some (.scopeOpen (← checkName "name" name))
  | scopeClose => pure (some .scopeClose)
  | value path format => do
      let (path, format) ← Checked.both (checkPath "path" path) (checkOptionalText "format_arg" format)
      return some (.value path format)
  | foreign => pure none

/-- The segments of some drafts; the first draft that fails decides. -/
def toSegments : List Draft → Except Fault (List Segment)
  | [] => pure []
  | draft :: drafts =>
      match draft.toSegment? with
      | .error errors => throw (.invalidFields errors)
      | .ok segment => do return segment.toList ++ (← toSegments drafts)

end Draft

end Stencil
