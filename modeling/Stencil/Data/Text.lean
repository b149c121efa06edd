import Stencil.Data.Value
import Stencil.Temporal.Text

/-!
# The text of values

A value has a written form, which shows how it is made, and a text, which is what a template shows. The
two differ for texts, numbers, dates and times, members of enumerations and values with rules of their
own; what contains other values shows their written forms.

Neither need exist. A whole number may have too many digits. A record is asked for its class and for its
fields, and a property of that name may answer with a fault. And showing what is nested takes nested calls,
of which there are not arbitrarily many.
-/

namespace Stencil

open Numeric Temporal

/-- Whether the written form of a record names the class that the record says it is of. -/
def RecordForm.asksClass : RecordForm → Bool
  | .namespace => false
  | .object | .model | .namedTuple => true

/-- Whether the written form of a record reads its fields as members, so that properties come before them. -/
def RecordForm.readsMembers : RecordForm → Bool
  | .object => true
  | .namespace | .model | .namedTuple => false

namespace Value

def booleanText (b : Bool) : String :=
  String.ofList (Number.booleanText b)

def recordText (form : RecordForm) (typeName : String) (fields : List String) : String :=
  let name := match form with
    | .namespace => "namespace"
    | _ => typeName
  name ++ "(" ++ ", ".intercalate fields ++ ")"

/-- The items of a tuple in parentheses. A single one is followed by a comma. -/
def tupleText : List String → String
  | [item] => "(" ++ item ++ ",)"
  | items => "(" ++ ", ".intercalate items ++ ")"

def mappingText (readOnly : Bool) (entries : List String) : String :=
  let body := "\x7b" ++ ", ".intercalate entries ++ "\x7d"
  if readOnly then "mappingproxy(" ++ body ++ ")" else body

/-- The member of an enumeration, with the text of its value. -/
def memberText (typeName name value : String) : String :=
  "<" ++ typeName ++ "." ++ name ++ ": " ++ value ++ ">"

/-- The nested calls that a text may take. There are a thousand in all, of which the rest is left to the
calling program. -/
def room : Nat := 900

/-- The nested calls that the written form of a value takes, beside those of its parts. -/
def ownCalls : Value → Nat
  | mapping true _ | record .namedTuple _ _ _ _ => 2
  | record .object _ _ _ _ | member _ _ _ => 3
  | record .model _ _ _ _ => 5
  | _ => 1

/-- Raises a fault, if there is one. -/
def raiseAny (fault? : Option Fault) : Except Fault Unit :=
  match fault? with
  | some fault => throw fault
  | none => pure ()

mutual

/-- The written form of a value, in so many nested calls. -/
def literal (room : Nat) (value : Value) : Except Fault String :=
  if room < value.ownCalls then throw .tooDeep
  else
    let room := room - value.ownCalls
    match value with
    | nothing => pure "None"
    | boolean b => pure (booleanText b)
    | integer n => String.ofList <$> integerText n
    | binary x => pure (String.ofList x.text)
    | decimal d => pure ("Decimal('" ++ String.ofList d.text ++ "')")
    | text s => pure (Text.quoted s)
    | bytes b => pure (Text.quotedBytes b)
    | date d => pure d.literal
    | moment m => pure m.literal
    | time t => pure t.literal
    | span s => pure s.literal
    | zone z => pure z.literal
    | list items => do return "[" ++ ", ".intercalate (← literals room items) ++ "]"
    | tuple items => tupleText <$> literals room items
    | mapping readOnly entries => mappingText readOnly <$> entryLiterals room entries
    | record form typeName fields _ broken => do
        raiseAny (if form.asksClass then List.lookup "__class__" broken else none)
        recordText form typeName <$> fieldLiterals room (if form.readsMembers then broken else []) fields
    | member typeName name value => memberText typeName name <$> literal room value
    | numberMember typeName name n => (memberText typeName name ∘ String.ofList) <$> integerText n
    | special typeName _ _ => pure ("<" ++ typeName ++ ">")
    | routine => pure "<built-in function len>"

def literals (room : Nat) : List Value → Except Fault (List String)
  | [] => pure []
  | value :: values => do return (← literal room value) :: (← literals room values)

/-- The entries of a mapping: key, colon and value. -/
def entryLiterals (room : Nat) : List (Value × Value) → Except Fault (List String)
  | [] => pure []
  | (key, value) :: entries => do
      return ((← literal room key) ++ ": " ++ (← literal room value)) :: (← entryLiterals room entries)

/-- The fields of a record: name, equals sign and value. A field behind a broken property is not read. -/
def fieldLiterals (room : Nat) (broken : List (String × Fault)) :
    List (String × Value) → Except Fault (List String)
  | [] => pure []
  | (name, value) :: fields => do
      raiseAny (List.lookup name broken)
      return (name ++ "=" ++ (← literal room value)) :: (← fieldLiterals room broken fields)

end

/-- The text of a value. A read-only mapping shows the mapping behind it, and a model its fields alone. -/
def toText (value : Value) : Except Fault String :=
  match value with
  | decimal d => pure (String.ofList d.text)
  | text s => pure s
  | date d => pure d.text
  | moment m => pure m.text
  | time t => pure t.text
  | span s => pure s.text
  | zone z => pure z.text
  | mapping true entries => (mapping false entries).literal (room - 1)
  | record .model _ fields _ _ =>
      " ".intercalate <$> fieldLiterals (room - value.ownCalls) [] fields
  | member typeName name _ => pure (typeName ++ "." ++ name)
  | numberMember _ _ n => String.ofList <$> integerText n
  | special _ (.shown shown) _ => pure shown
  | special _ (.raises fault) _ => throw fault
  | value => value.literal room

end Value

end Stencil
