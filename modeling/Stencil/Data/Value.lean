import Stencil.Fault
import Stencil.Numeric.Number
import Stencil.Temporal.Moment

/-!
# Values

Templates are filled from data whose shape is not known beforehand, so there is one type for all of it:
nothing, numbers, texts, bytes, dates and times, lists and tuples, mappings, records with named fields,
members of enumerations, values that show themselves by rules of their own, and routines.
-/

namespace Stencil

open Numeric Temporal

/-- The kinds of records. They differ in how they are written and in what they hold beside their
fields. -/
inductive RecordForm
  | namespace
  | object
  | model
  | namedTuple
  deriving DecidableEq

/-- How a value of its own kind turns into text: it has a text, or raises a fault. -/
inductive TextRule
  | shown (text : String)
  | raises (fault : Fault)
  deriving DecidableEq

/-- How a value of its own kind takes a format: not at all, or by a rule that may do anything with it. -/
inductive FormatRule
  | unsupported
  | custom (rule : String → Except Fault String)

namespace FormatRule

/-- The format between two texts. -/
def between (front back : String) : FormatRule :=
  custom fun spec => .ok (front ++ spec ++ back)

/-- The same fault for every format. -/
def raises (fault : Fault) : FormatRule :=
  custom fun _ => .error fault

end FormatRule

inductive Value
  | nothing
  | boolean (b : Bool)
  | integer (n : Int)
  | binary (x : Binary64)
  | decimal (d : Decimal)
  | text (s : String)
  | bytes (bytes : List UInt8)
  | date (date : Date)
  | moment (moment : Moment)
  | time (time : TimeOfDay)
  | span (span : Span)
  | zone (zone : Zone)
  | list (items : List Value)
  | tuple (items : List Value)
  | mapping (readOnly : Bool) (entries : List (Value × Value))
  | record (form : RecordForm) (typeName : String) (fields : List (String × Value))
      (methods : List String) (broken : List (String × Fault))
  | member (typeName name : String) (value : Value)
  | numberMember (typeName name : String) (number : Int)
  | special (typeName : String) (text : TextRule) (format : FormatRule)
  | routine
  deriving Inhabited

namespace Value

/-- The name of the type of a value. -/
def typeName : Value → String
  | nothing => "NoneType"
  | boolean _ => "bool"
  | integer _ => "int"
  | binary _ => "float"
  | decimal _ => "Decimal"
  | text _ => "str"
  | bytes _ => "bytes"
  | date _ => "date"
  | moment _ => "datetime"
  | time _ => "time"
  | span _ => "timedelta"
  | zone _ => "timezone"
  | list _ => "list"
  | tuple _ => "tuple"
  | mapping false _ => "dict"
  | mapping true _ => "mappingproxy"
  | record .namespace _ _ _ _ => "SimpleNamespace"
  | record _ typeName _ _ _ => typeName
  | member typeName _ _ => typeName
  | numberMember typeName _ _ => typeName
  | special typeName _ _ => typeName
  | routine => "builtin_function_or_method"

/-- The name of the type of a value, with the library that it comes from where messages show that. -/
def fullTypeName (value : Value) : String :=
  match value with
  | decimal _ => "decimal." ++ value.typeName
  | date _ | moment _ | time _ | span _ | zone _ => "datetime." ++ value.typeName
  | record .namespace _ _ _ _ => "types." ++ value.typeName
  | value => value.typeName

/-- Whether a value is a function, which templates do not see. -/
def isRoutine : Value → Bool
  | routine => true
  | _ => false

theorem isRoutine_iff {value : Value} : value.isRoutine = true ↔ value = routine := by
  cases value with
  | _ => simp [isRoutine]

def isNothing : Value → Bool
  | nothing => true
  | _ => false

theorem isNothing_iff {value : Value} : value.isNothing = true ↔ value = nothing := by
  cases value with
  | _ => simp [isNothing]

/-- A value as a number, if it is one. A member of an enumeration of numbers counts as its number. -/
def number? : Value → Option Number
  | boolean b => some (.boolean b)
  | integer n => some (.integer n)
  | numberMember _ _ n => some (.integer n)
  | binary x => some (.binary x)
  | decimal d => some (.decimal d)
  | _ => none

/-- A value as a moment, if it is a date, a time of day or a moment. -/
def moment? : Value → Option Moment
  | moment m => some m
  | date d => some (.ofDate d)
  | time t => some (.ofTime t)
  | _ => none

/-! ## Properties

Reading a member of a record may run a property, which raises a fault. The class that a record names is such
a member too, and is asked for where the type of a value is tested. The special methods, by which a record is
read, shown and formatted, are those of its form and never properties. -/

/-- The fault that a property of a value raises. -/
def raisedBy? (value : Value) (name : String) : Option Fault :=
  match value with
  | record _ _ _ _ broken => List.lookup name broken
  | _ => none

/-- The fault of asking a value for its class. -/
def classFault? (value : Value) : Option Fault :=
  value.raisedBy? "__class__"

/-- The fault of testing the type of a value. A missing class is none: what the value is made of is tested
then. -/
def typeFault? (value : Value) : Option Fault :=
  value.classFault?.filter fun fault => fault.kind ≠ .missingAttribute

end Value

end Stencil
