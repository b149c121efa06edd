import Stencil.Data.Format
import Stencil.Data.Member

/-!
# Placeholders in messages

A message may be given as a template of its own, with placeholders between braces for further values. A
placeholder names a value by its place or by its name, or takes the next place if it names none; it may go
on to attributes and entries of the value, ask for its written form, and end with a specification, in
which placeholders may stand again. A doubled brace stands for one brace.
-/

namespace Stencil

def leftBrace : Char := '\x7b'

def rightBrace : Char := '\x7d'

structure Placeholder where
  name : List Char
  conversion : Option Char
  spec : List Char
  deriving DecidableEq

/-- A part of a message. A message that is not well formed ends with a broken part; the parts before it
are still filled. -/
inductive MessagePart
  | text (text : List Char)
  | placeholder (placeholder : Placeholder)
  | broken (fault : Fault)
  deriving DecidableEq

namespace MessagePart

/-- The fault of a message that is not well formed. -/
def malformed (text : String) : Fault :=
  .raised .badValue text

/-- The name of a placeholder and what follows it; a bracket hides what ends a name. -/
def splitName (bracketed : Bool) : List Char → Except Fault (List Char × List Char)
  | [] => throw (malformed "expected '\x7d' before end of string")
  | c :: rest =>
      if bracketed then do
        let (name, rest) ← splitName (c ≠ ']') rest
        return (c :: name, rest)
      else if c = leftBrace then throw (malformed "unexpected '\x7b' in field name")
      else if c = rightBrace || c = ':' || c = '!' then pure ([], c :: rest)
      else do
        let (name, rest) ← splitName (c = '[') rest
        return (c :: name, rest)

/-- The specification of a placeholder up to the brace that closes it, and what follows that brace. -/
def splitSpec (depth : Nat) : List Char → Except Fault (List Char × List Char)
  | [] => throw (malformed "unmatched '\x7b' in format spec")
  | c :: rest =>
      if c = rightBrace && depth = 0 then pure ([], rest)
      else do
        let depth := if c = leftBrace then depth + 1 else if c = rightBrace then depth - 1 else depth
        let (spec, rest) ← splitSpec depth rest
        return (c :: spec, rest)

/-- A placeholder, from behind its opening brace, and what follows it. -/
def readPlaceholder (text : List Char) : Except Fault (Placeholder × List Char) := do
  let (name, rest) ← splitName false text
  match rest with
  | ':' :: rest =>
      let (spec, rest) ← splitSpec 0 rest
      return (⟨name, none, spec⟩, rest)
  | ['!'] => throw (malformed "end of string while looking for conversion specifier")
  | ['!', _] => throw (malformed "unmatched '\x7b' in format spec")
  | '!' :: conversion :: ':' :: rest =>
      let (spec, rest) ← splitSpec 0 rest
      return (⟨name, some conversion, spec⟩, rest)
  | '!' :: conversion :: c :: rest =>
      if c = rightBrace then return (⟨name, some conversion, []⟩, rest)
      else throw (malformed "expected ':' after conversion specifier")
  | _ => return (⟨name, none, []⟩, rest.drop 1)

/-- The parts of a message. Every part takes at least one character, so `fuel` may be the length. -/
def readAll (fuel : Nat) (message : List Char) : List MessagePart :=
  match fuel, message with
  | 0, _ | _, [] => []
  | fuel + 1, c :: rest =>
      if c = leftBrace || c = rightBrace then
        if rest.head? = some c then text [c] :: readAll fuel (rest.drop 1)
        else if c = rightBrace then [broken (malformed "Single '\x7d' encountered in format string")]
        else if rest.isEmpty then [broken (malformed "Single '\x7b' encountered in format string")]
        else match readPlaceholder rest with
          | .ok (p, rest) => placeholder p :: readAll fuel rest
          | .error fault => [broken fault]
      else text [c] :: readAll fuel rest

end MessagePart

/-- How placeholders without a name are counted. Counted and numbered placeholders cannot be mixed. -/
inductive Counting
  | unused
  | counted (next : Nat)
  | numbered
  deriving DecidableEq

/-- The values that a message is given. -/
structure MessageValues where
  places : List Value
  names : Fields

namespace MessageValues

/-- A step from a value to an attribute or an entry. -/
inductive Access
  | attribute (name : String)
  | entry (key : String)

/-- The first name of a placeholder, and the steps after it. -/
def readAccesses (fuel : Nat) (text : List Char) : Except Fault (List Access) :=
  match fuel, text with
  | 0, _ | _, [] => pure []
  | fuel + 1, '.' :: rest =>
      let (name, rest) := rest.span fun c => c ≠ '.' && c ≠ '['
      if name.isEmpty then throw (MessagePart.malformed "Empty attribute in format string")
      else do return .attribute (String.ofList name) :: (← readAccesses fuel rest)
  | fuel + 1, '[' :: rest =>
      let (key, rest) := rest.span (· ≠ ']')
      if rest.isEmpty then throw (MessagePart.malformed "Missing ']' in format string")
      else if key.isEmpty then throw (MessagePart.malformed "Empty attribute in format string")
      else do return .entry (String.ofList key) :: (← readAccesses fuel (rest.drop 1))
  | _, _ => throw (MessagePart.malformed "Only '.' or '[' may follow ']' in format field specifier")

/-- The item of a list at a place. -/
def itemAt (typeName : String) (items : List Value) (n : Nat) : Except Fault Value :=
  match items[n]? with
  | some found => pure found
  | none => throw (.raised .badIndex (typeName ++ " index out of range"))

/-- The entry of a mapping, a list or a text. A key in digits is a number. -/
def entryOf (value : Value) (key : String) : Except Fault Value :=
  match value, Text.decimalNumber? key.toList with
  | .mapping _ entries, some n =>
      match entries.find? fun entry => entry.1.sameKey (.integer n) with
      | some entry => pure entry.2
      | none => throw (.raised .badIndex (toString n))
  | .mapping _ entries, none => match Entries.find? entries key with
      | some found => pure found
      | none => throw (.raised .missingKey key)
  | .list items, some n => itemAt "list" items n
  | .tuple items, some n => itemAt "tuple" items n
  | .text text, some n => itemAt "string" (text.toList.map fun c => .text (String.singleton c)) n
  | .bytes bytes, some n => itemAt "index" (bytes.map fun b => .integer b.toNat) n
  | .list _, none | .tuple _, none => throw (.raised .wrongType
      (value.typeName ++ " indices must be integers or slices, not str"))
  | .text _, none => throw (.raised .wrongType "string indices must be integers, not 'str'")
  | .bytes _, none => throw (.raised .wrongType "byte indices must be integers or slices, not str")
  | .record .namedTuple _ fields _ _, some n => itemAt "tuple" (fields.map Prod.snd) n
  | .record .namedTuple _ _ _ _, none => throw (.raised .wrongType
      "tuple indices must be integers or slices, not str")
  | value, _ => throw (.raised .wrongType ("'" ++ value.fullTypeName ++ "' object is not subscriptable"))

/-- Takes a step from a value. -/
def access (value : Value) : Access → Except Fault Value
  | .attribute name => match value.attributeNamed name with
      | .found found => pure found
      | .broken fault => throw fault
      | .absent => throw (.raised .missingAttribute
          ("'" ++ value.fullTypeName ++ "' object has no attribute '" ++ name ++ "'"))
  | .entry key => entryOf value key

/-- The value at a place. -/
def atPlace (values : MessageValues) (n : Nat) : Except Fault Value :=
  match values.places[n]? with
  | some value => pure value
  | none => throw (.raised .badIndex
      ("Replacement index " ++ toString n ++ " out of range for positional args tuple"))

/-- The value that the first name of a placeholder stands for. -/
def start (values : MessageValues) (counting : Counting) (name : List Char) :
    Except Fault (Value × Counting) :=
  match name, Text.decimalNumber? name, counting with
  | [], _, .numbered => throw (MessagePart.malformed
      "cannot switch from manual field specification to automatic field numbering")
  | [], _, .counted n => do return (← values.atPlace n, .counted (n + 1))
  | [], _, .unused => do return (← values.atPlace 0, .counted 1)
  | _, some _, .counted _ => throw (MessagePart.malformed
      "cannot switch from automatic field numbering to manual field specification")
  | _, some n, _ => do return (← values.atPlace n, .numbered)
  | name, none, counting => match Fields.find? values.names (String.ofList name) with
      | some value => pure (value, counting)
      | none => throw (.raised .missingKey (String.ofList name))

/-- The value that a placeholder names. -/
def find (values : MessageValues) (counting : Counting) (name : List Char) :
    Except Fault (Value × Counting) := do
  let (first, rest) := name.span fun c => c ≠ '.' && c ≠ '['
  let (value, counting) ← values.start counting first
  let accesses ← readAccesses rest.length rest
  let value ← accesses.foldlM access value
  return (value, counting)

/-- A value in the form that a placeholder asks for. -/
def convert (value : Value) : Option Char → Except Fault Value
  | none => pure value
  | some 's' => do return .text (← value.toText)
  | some 'r' => do return .text (← value.literal Value.room)
  | some 'a' => do
      let shown ← value.literal Value.room
      return .text (String.ofList
        (shown.toList.flatMap fun c => if c.toNat < 0x80 then [c] else Text.codeEscape c))
  | some c => throw (MessagePart.malformed ("Unknown conversion specifier " ++ String.singleton c))

/-- Fills a message. `depth` says how deep placeholders may stand inside each other. -/
def fill (values : MessageValues) (depth : Nat) (counting : Counting) (message : List Char) :
    Except Fault (List Char × Counting) :=
  match depth with
  | 0 => throw (MessagePart.malformed "Max string recursion exceeded")
  | depth + 1 => (MessagePart.readAll message.length message).foldlM (fillPart depth) ([], counting)
where
  /-- Adds one part to what is filled already. -/
  fillPart (depth : Nat) : List Char × Counting → MessagePart → Except Fault (List Char × Counting)
    | _, .broken fault => throw fault
    | (shown, counting), .text text => pure (shown ++ text, counting)
    | (shown, counting), .placeholder p => do
        let (value, counting) ← values.find counting p.name
        let value ← convert value p.conversion
        let (spec, counting) ←
          if p.spec.contains leftBrace then values.fill depth counting p.spec
          else pure (p.spec, counting)
        let text ← value.formatSpec (String.ofList spec)
        return (shown ++ text.toList, counting)

end MessageValues

end Stencil
