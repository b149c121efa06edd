import Stencil.Numeric.Refusal

/-!
# Faults

A fault is the reason why an operation has no result. The library states its own faults by their
cause; what a data source or a lookup raises of its own accord is carried along with the kind and the
text it was given. `Fault.kind` sorts the causes into families, `Fault.text` words them.

To word a fault may itself end in a fault, for a data source can raise what has no text. Whoever catches a
fault and reports it needs its text, so `Fault.caught` has either that text or what escapes instead: the
fault of the wording, or an interrupt, which is never caught.
-/

namespace Stencil

inductive FaultKind
  | wrongType
  | badValue
  | badEncoding
  | arithmetic
  | overflow
  | zeroDivision
  | floatingPoint
  | decimalInvalid
  | decimalOverflow
  | missingKey
  | badIndex
  | missingAttribute
  | invalidFields
  | interrupt (name : String)
  | other (name : String)
  deriving DecidableEq

namespace FaultKind

/-- The families that show that a value cannot take a format: a wrong type, a bad value, an arithmetic
fault, or a missing key or index. -/
def refusesFormat : FaultKind → Bool
  | wrongType | badValue | badEncoding | invalidFields => true
  | arithmetic | overflow | zeroDivision | floatingPoint | decimalInvalid | decimalOverflow => true
  | missingKey | badIndex => true
  | missingAttribute | interrupt _ | other _ => false

/-- Whether faults of the kind are caught where anything may go wrong. An interrupt is no failure: it asks
the whole program to end. -/
def isCaught : FaultKind → Bool
  | interrupt _ => false
  | _ => true

end FaultKind

/-- What is wrong with one field of a record that is checked on entry. -/
inductive FieldProblem
  | missing
  | notText
  | emptyText
  | emptyList
  | notList
  | notBoolean
  | unreadableBoolean
  | delimiterLength (text : String)
  | keywordShape (text : String)
  deriving DecidableEq

/-- The wording of the problems that a check of the content finds. -/
def FieldProblem.text? : FieldProblem → Option String
  | delimiterLength text => some ("Token delimiter must be a single character: " ++ Text.quoted text)
  | keywordShape text => some ("Invalid scope keyword: " ++ Text.quoted text)
  | _ => none

/-- The place of a problem: a field, or an entry of a field that is a list. -/
structure FieldError where
  field : String
  entry : Option Nat := none
  problem : FieldProblem
  deriving DecidableEq

/-- The reasons why an operation has no result. -/
inductive Fault
  | emptyDatePattern
  | unknownDatePattern (pattern : String)
  | outOfCalendar
  | integerRequired (letter : Char)
  | negativeHexadecimal
  | specRefused (refusal : Numeric.Refusal)
  | specUnsupported (typeName : String)
  | tooLargeForBinary
  | notACodePoint
  | tooManyDigits
  | tooDeep
  | decimalInvalid
  | decimalUnreadable
  | decimalOverflow
  | delimiterLength
  | delimitersEqual
  | keywordShape
  | invalidFields (errors : List FieldError)
  | raised (kind : FaultKind) (text : String)
  | wordless (kind : FaultKind) (cause : Fault)
  deriving DecidableEq

namespace Fault

def kind : Fault → FaultKind
  | emptyDatePattern | unknownDatePattern _ | integerRequired _ | negativeHexadecimal
  | specRefused _ | tooManyDigits | delimiterLength | delimitersEqual | keywordShape => .badValue
  | specUnsupported _ => .wrongType
  | outOfCalendar | tooLargeForBinary | notACodePoint => .overflow
  | tooDeep => .other "RecursionError"
  | decimalInvalid | decimalUnreadable => .decimalInvalid
  | decimalOverflow => .decimalOverflow
  | invalidFields _ => .invalidFields
  | raised kind _ | wordless kind _ => kind

/-- The fault of a value whose type has this name, which a refusal is worded with. -/
def ofType (typeName : String) : Fault → Fault
  | specRefused refusal => raised .badValue (refusal.text typeName)
  | other => other

/-- The wording of a fault, or the fault that comes up instead. The text of a missing key is that key, so it
is shown in quotes. -/
def text : Fault → Except Fault String
  | emptyDatePattern => pure "Empty date format"
  | unknownDatePattern pattern => pure ("Unknown standard date format " ++ Text.quoted pattern)
  | outOfCalendar => pure "date value out of range"
  | integerRequired letter =>
      pure ("Format " ++ Text.quoted (String.singleton letter) ++ " requires an integer")
  | negativeHexadecimal => pure "Hex format requires a non-negative integer"
  | specRefused refusal => pure (refusal.text "value")
  | specUnsupported typeName =>
      pure ("unsupported format string passed to " ++ typeName ++ ".__format__")
  | tooLargeForBinary => pure "int too large to convert to float"
  | notACodePoint => pure "%c arg not in range(0x110000)"
  | tooManyDigits => pure ("Exceeds the limit (4300 digits) for integer string conversion; " ++
      "use sys.set_int_max_str_digits() to increase the limit")
  | tooDeep => pure "maximum recursion depth exceeded while getting the repr of an object"
  | decimalInvalid => pure "[<class 'decimal.InvalidOperation'>]"
  | decimalUnreadable => pure "[<class 'decimal.ConversionSyntax'>]"
  | decimalOverflow => pure "[<class 'decimal.Overflow'>]"
  | delimiterLength => pure "Token delimiters must be single characters"
  | delimitersEqual => pure "Token open and close delimiters must differ"
  | keywordShape => pure "Scope keyword cannot be empty or contain whitespace"
  | invalidFields errors => pure (toString errors.length ++ " invalid field(s)")
  | raised .missingKey key => pure (Text.quoted key)
  | raised _ text => pure text
  | wordless _ cause => throw cause

/-- The text that a fault is reported with once it is caught, or the fault that escapes from there. -/
def caught (fault : Fault) : Except Fault String :=
  if fault.kind.isCaught then fault.text else throw fault

end Fault

end Stencil
