import Stencil.Data.Format
import Stencil.Lookup.Resolver
import Stencil.Proofs.Numeric.Refusals

/-!
# Ordinary data

Data are ordinary if they are built, to any depth, from the values that come with the library
(`Value.IsOrdinary`). Only values with rules of their own are left out, for these may do anything when they are
shown. Whole numbers have a text, spans are within the bounds of spans, and properties of records raise what can
be caught and reported; none of them stands for a field or has a special name.

Formats that do not apply to ordinary values are refused (`refusesOnly_format_of_toText`).
-/

namespace Stencil

open Numeric Temporal

/-! ## Formats of dates and texts -/

namespace Temporal.Moment

theorem refusesOnly_formatStandard (moment : Moment) (letter : Char) :
    RefusesOnly (moment.formatStandard letter) := by
  unfold formatStandard
  split
  · exact .throw rfl rfl
  · refine .ite ?_ (.pure _)
    split
    · exact .pure _
    · exact .throw rfl rfl

theorem refusesOnly_format (moment : Moment) (pattern : String) :
    RefusesOnly (moment.format pattern) := by
  unfold format
  refine .map _ ?_
  split
  · exact .throw rfl rfl
  · exact refusesOnly_formatStandard moment _
  · exact .pure _

end Temporal.Moment

namespace Value

theorem refusesOnly_formatText (shown spec : String) : RefusesOnly (formatText shown spec) :=
  .ofType _ (.map _ (Numeric.Spec.refusesOnly_formatText _ _))

/-! ## Formats of values that have a text -/

section Formats

variable {value : Value} {shown : String}

theorem refusesOnly_formatOther (h : value.toText = .ok shown) (spec : String) :
    RefusesOnly (value.formatOther spec) := by
  unfold formatOther
  refine .ite ?_ ?_
  · rw [h]
    exact .ok shown
  · split
    · exact .pure _
    · exact .throw rfl rfl

theorem refusesOnly_formatSpec (h : value.toText = .ok shown) {spec : String}
    (hrule : ∀ typeName text rule, value = special typeName text (.custom rule) →
      RefusesOnly (rule spec)) : RefusesOnly (value.formatSpec spec) := by
  unfold formatSpec
  split
  · exact refusesOnly_formatText _ _
  · exact refusesOnly_formatText _ _
  · exact hrule _ _ _ rfl
  · split
    · exact .ofType _ (.map _ (Number.refusesOnly_formatSpec _ _))
    · exact refusesOnly_formatOther h spec

/-- A format that does not apply to a value is refused, if the value has a text and no rule of its own that
fails in another way. -/
theorem refusesOnly_format_of_toText (h : value.toText = .ok shown) {format : String}
    (hrule : ∀ typeName text rule, value = special typeName text (.custom rule) →
      RefusesOnly (rule format)) : RefusesOnly (value.format format) := by
  unfold Value.format
  split
  · exact Moment.refusesOnly_format _ _
  · exact Numeric.refusesOnly_format _ _
  · exact refusesOnly_formatSpec h hrule

end Formats

/-- The names under which an object tells of its class, and is read, shown and formatted. -/
def specialNames : List String :=
  ["__class__", "__getattribute__", "__getattr__", "__str__", "__repr__", "__format__"]

/-- The properties of a record raise what is caught and has a text, and none of them stands for a field or has a
special name. -/
def PropertiesHeld (fields : List (String × Value)) (broken : List (String × Fault)) : Prop :=
  ∀ name fault, List.lookup name broken = some fault →
    name ∉ specialNames ∧ List.lookup name fields = none ∧
      (fault.kind = .missingAttribute ∨ ∃ reason, fault.caught = .ok reason)

/-- A value that is built from the values of the library, to any depth. -/
inductive IsOrdinary : Value → Prop
  | nothing : IsOrdinary nothing
  | boolean (b : Bool) : IsOrdinary (boolean b)
  | integer {n : Int} (h : digitCount n.natAbs ≤ maxDigits) : IsOrdinary (integer n)
  | binary (x : Binary64) : IsOrdinary (binary x)
  | decimal (d : Decimal) : IsOrdinary (decimal d)
  | text (s : String) : IsOrdinary (text s)
  | bytes (bytes : List UInt8) : IsOrdinary (Value.bytes bytes)
  | date (date : Date) : IsOrdinary (Value.date date)
  | moment (moment : Moment) : IsOrdinary (Value.moment moment)
  | time (time : TimeOfDay) : IsOrdinary (Value.time time)
  | span {span : Span} (h : span.days.natAbs ≤ Span.maxDays) : IsOrdinary (Value.span span)
  | zone (zone : Zone) : IsOrdinary (Value.zone zone)
  | list {items : List Value} (h : ∀ item, item ∈ items → IsOrdinary item) :
      IsOrdinary (list items)
  | tuple {items : List Value} (h : ∀ item, item ∈ items → IsOrdinary item) :
      IsOrdinary (tuple items)
  | mapping {readOnly : Bool} {entries : List (Value × Value)}
      (hkeys : ∀ entry, entry ∈ entries → IsOrdinary entry.1)
      (hvalues : ∀ entry, entry ∈ entries → IsOrdinary entry.2) :
      IsOrdinary (mapping readOnly entries)
  | record {form : RecordForm} {typeName : String} {fields : List (String × Value)}
      {methods : List String} {broken : List (String × Fault)}
      (h : ∀ field, field ∈ fields → IsOrdinary field.2) (hbroken : PropertiesHeld fields broken) :
      IsOrdinary (record form typeName fields methods broken)
  | member {typeName name : String} {value : Value} (h : IsOrdinary value) :
      IsOrdinary (member typeName name value)
  | numberMember {typeName name : String} {number : Int} (h : digitCount number.natAbs ≤ maxDigits) :
      IsOrdinary (numberMember typeName name number)
  | routine : IsOrdinary routine

namespace PropertiesHeld

variable {fields : List (String × Value)} {broken : List (String × Fault)}

theorem lookup_class (h : PropertiesHeld fields broken) : List.lookup "__class__" broken = none := by
  cases hlookup : List.lookup "__class__" broken with
  | none => rfl
  | some fault => exact absurd (by decide) (h _ _ hlookup).1

theorem lookup_field (h : PropertiesHeld fields broken) {field : String × Value} (hfield : field ∈ fields) :
    List.lookup field.1 broken = none := by
  cases hlookup : List.lookup field.1 broken with
  | none => rfl
  | some fault =>
      have hnone := List.lookup_eq_none_iff.mp (h _ _ hlookup).2.1 field hfield
      simp at hnone

end PropertiesHeld

namespace IsOrdinary

variable {value : Value}

/-- An ordinary value tells of its class. -/
theorem classFault?_eq_none (h : value.IsOrdinary) : value.classFault? = none := by
  cases h with
  | record h hbroken => exact hbroken.lookup_class
  | _ => rfl

theorem typeFault?_eq_none (h : value.IsOrdinary) : value.typeFault? = none := by
  rw [typeFault?, h.classFault?_eq_none]
  rfl

/-- What a property of an ordinary value raises can be reported. -/
theorem exists_caught (h : value.IsOrdinary) {name : String} {fault : Fault}
    (hbroken : value.attributeNamed name = .broken fault) : ∃ reason, fault.caught = .ok reason := by
  unfold attributeNamed at hbroken
  split at hbroken
  · next raised hraised =>
      split at hbroken
      · cases hbroken
      · next hkind =>
          cases hbroken
          cases h with
          | record h hheld => exact (hheld _ _ hraised).2.2.resolve_left hkind
          | _ => cases hraised
  · split at hbroken
    · exact absurd hbroken (Attribute.ofOption_ne_broken _ _)
    · exact absurd hbroken (Attribute.ofOption_ne_broken _ _)

end IsOrdinary

end Value

end Stencil
