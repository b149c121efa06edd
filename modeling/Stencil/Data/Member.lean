import Stencil.Data.Text

/-!
# Members of values

A value has members in two ways. A mapping has entries, which are looked up by their keys; every value has
attributes, which are looked up by their names. Numbers, dates and times, zones and members of
enumerations have attributes of their own; records have their fields, and may have methods and properties
that raise a fault when they are read.

What a value has by its class is left out where no value of the library holds it: the other members of an
enumeration, and the descriptions that the classes of models keep of their fields.
-/

namespace Stencil

open Numeric Temporal

/-- The entries of a mapping, in the order in which their keys were first given. -/
abbrev Entries := List (Value × Value)

namespace Value

/-- A number in a form that equal numbers of different kinds share: sign, coefficient without zeros at
its end, and exponent of ten. -/
def exactNumber? (value : Value) : Option (Bool × List Char × Int) :=
  let exact := fun (negative : Bool) (coefficient : Nat) (exponent : Int) =>
    if coefficient = 0 then some (false, [], 0)
    else
      let s := Significant.ofScientific coefficient exponent
      some (negative, s.digits, s.place)
  match value.number? with
  | some (.boolean b) => exact false b.toNat 0
  | some (.integer n) => exact (n < 0) n.natAbs 0
  | some (.binary (.finite negative significand exponent)) =>
      exact negative (significand * 2 ^ exponent.toNat * 5 ^ (-exponent).toNat) (min exponent 0)
  | some (.decimal (.finite negative coefficient exponent)) => exact negative coefficient exponent
  | some (.binary (.infinite negative)) | some (.decimal (.infinite negative)) =>
      some (negative, ['i'], 0)
  | _ => none

/-- Whether two values have written forms, and are written alike. -/
def sameLiteral (value other : Value) : Bool :=
  match value.literal room, other.literal room with
  | .ok s, .ok t => s = t
  | _, _ => false

mutual

/-- Whether two keys address the same entry. Numbers are compared by what they are worth, moments and times
of day by where they stand in universal time, zones by their offsets, and tuples item by item. Values with
an identity of their own are never the same; others are the same if they are written alike. -/
def sameKey : Value → Value → Bool
  | text s, text t => s = t
  | moment m, moment n => m.zone.isSome = n.zone.isSome && m.instant = n.instant
  | time t, time u => t.zone.isSome = u.zone.isSome && t.instant = u.instant
  | zone z, zone w => z.offset = w.offset
  | tuple items, tuple others => sameKeys items others
  | member _ _ _, _ | special _ _ _, _ => false
  | key, other =>
      match key.exactNumber?, other.exactNumber? with
      | some x, some y => x = y
      | none, none => key.number?.isNone && other.number?.isNone && sameLiteral key other
      | _, _ => false

/-- Whether the items of two tuples are the same keys. -/
def sameKeys : List Value → List Value → Bool
  | [], [] => true
  | key :: keys, other :: others => sameKey key other && sameKeys keys others
  | _, _ => false

end

end Value

namespace Entries

/-- The value under a key that is a text. -/
def find? (entries : Entries) (name : String) : Option Value :=
  List.findSome? (fun (key, value) => match key with
    | .text key => if key = name then some value else none
    | _ => none) entries

/-- Sets the value under a key, which keeps its place if it was there before. -/
def insert (key value : Value) : Entries → Entries
  | [] => [(key, value)]
  | (other, old) :: entries =>
      if other.sameKey key then (other, value) :: entries
      else (other, old) :: insert key value entries

/-- The entries that are given one after the other. -/
def ofPairs (pairs : List (Value × Value)) : Entries :=
  pairs.foldl (fun entries pair => insert pair.1 pair.2 entries) []

end Entries

abbrev Fields := List (String × Value)

namespace Fields

def find? (fields : Fields) (name : String) : Option Value :=
  List.lookup name fields

/-- Sets a field, which keeps its place if it was there before. -/
def insert (name : String) (value : Value) : Fields → Fields
  | [] => [(name, value)]
  | (other, old) :: fields =>
      if other = name then (name, value) :: fields
      else (other, old) :: insert name value fields

/-- The fields that are given one after the other. -/
def ofPairs (pairs : List (String × Value)) : Fields :=
  pairs.foldl (fun fields pair => insert pair.1 pair.2 fields) []

end Fields

/-- What is found under the name of an attribute. -/
inductive Attribute
  | absent
  | broken (fault : Fault)
  | found (value : Value)

namespace Attribute

/-- A value that is there or not. -/
def ofOption : Option Value → Attribute
  | some value => found value
  | none => absent

theorem eq_some_of_ofOption {given : Option Value} {value : Value} (h : ofOption given = found value) :
    given = some value := by
  cases given with
  | none => cases h
  | some other =>
      cases h
      rfl

theorem ofOption_ne_broken (given : Option Value) (fault : Fault) : ofOption given ≠ broken fault := by
  cases given with
  | none => simp [ofOption]
  | some value => simp [ofOption]

end Attribute

namespace Value

def integerAttribute? (n : Int) : String → Option Value
  | "real" | "numerator" => some (integer n)
  | "imag" => some (integer 0)
  | "denominator" => some (integer 1)
  | _ => none

def dateAttribute? (date : Date) : String → Option Value
  | "year" => some (integer date.year)
  | "month" => some (integer date.month)
  | "day" => some (integer date.day)
  | _ => none

def clockAttribute? (clock : Clock) (zone : Option Zone) : String → Option Value
  | "hour" => some (integer clock.hour)
  | "minute" => some (integer clock.minute)
  | "second" => some (integer clock.second)
  | "microsecond" => some (integer clock.micro)
  | "tzinfo" => some ((zone.map Value.zone).getD nothing)
  | "fold" => some (integer 0)
  | _ => none

/-- The least and the greatest value of a type, and its smallest step. -/
def boundAttribute? (least greatest : Value) (step : Span) : String → Option Value
  | "min" => some least
  | "max" => some greatest
  | "resolution" => some (span step)
  | _ => none

def spanAttribute? (s : Span) : String → Option Value
  | "days" => some (integer s.days)
  | "seconds" => some (integer s.seconds)
  | "microseconds" => some (integer s.microseconds)
  | _ => none

/-- The attributes that a value has by its type. -/
def ownAttribute? (value : Value) (name : String) : Option Value :=
  match value with
  | boolean b => integerAttribute? b.toNat name
  | integer n => integerAttribute? n name
  | binary x => match name with
      | "real" => some (binary x)
      | "imag" => some (binary (Binary64.zero false))
      | _ => none
  | decimal d => match name with
      | "real" => some (decimal d)
      | "imag" => some (decimal (.ofInt 0))
      | _ => none
  | date d =>
      dateAttribute? d name <|>
        boundAttribute? (date Date.first) (date Date.last) Span.day name
  | moment m =>
      dateAttribute? m.date name <|> clockAttribute? m.clock m.zone name <|>
        boundAttribute? (moment ⟨Date.first, Clock.midnight, none⟩) (moment ⟨Date.last, Clock.last, none⟩)
          Span.microsecond name
  | time t =>
      clockAttribute? t.clock t.zone name <|>
        boundAttribute? (time ⟨Clock.midnight, none⟩) (time ⟨Clock.last, none⟩) Span.microsecond name
  | span s =>
      spanAttribute? s name <|>
        boundAttribute? (span Span.longestBack) (span Span.longest) Span.microsecond name
  | zone _ => match name with
      | "utc" => some (zone Zone.universal)
      | "min" => some (zone Zone.westmost)
      | "max" => some (zone Zone.eastmost)
      | _ => none
  | member _ own v => match name with
      | "name" => some (text own)
      | "value" => some v
      | _ => none
  | numberMember _ own n => match name with
      | "name" => some (text own)
      | "value" => some (integer n)
      | name => integerAttribute? n name
  | _ => none

/-- The attribute of a value under a name. A property that raises a fault comes before a field of its name, and
a field before a method; if the fault is that an attribute is missing, it counts as absent. -/
def attributeNamed (value : Value) (name : String) : Attribute :=
  match value.raisedBy? name with
  | some fault => if fault.kind = .missingAttribute then .absent else .broken fault
  | none => match value with
      | record _ _ fields methods _ =>
          .ofOption (Fields.find? fields name <|> if methods.contains name then some routine else none)
      | value => .ofOption (value.ownAttribute? name)

/-! ## Changing a value -/

/-- Sets the entry or the field under a name. -/
def assign (target : Value) (name : String) (value : Value) : Except Fault Value :=
  match target with
  | mapping false entries => pure (mapping false (Entries.insert (text name) value entries))
  | record form typeName fields methods broken =>
      pure (record form typeName (Fields.insert name value fields) methods broken)
  | _ => throw (.raised .missingAttribute name)

/-- The entry of a mapping, or else the field of a record. -/
def child (target : Value) (name : String) : Except Fault Value :=
  match target with
  | mapping false entries => match Entries.find? entries name with
      | some value => pure value
      | none => throw (.raised .missingKey name)
  | record _ _ fields _ _ => match Fields.find? fields name with
      | some value => pure value
      | none => throw (.raised .missingAttribute name)
  | _ => throw (.raised .missingAttribute name)

/-- Sets what a path of names leads to. -/
def put (target : Value) (path : List String) (value : Value) : Except Fault Value :=
  match path with
  | [] => throw (.raised .badIndex "")
  | [name] => target.assign name value
  | name :: path => do
      let changed ← (← target.child name).put path value
      target.assign name changed

end Value

end Stencil
