import Stencil.Proofs.Data.Ordinary
import Stencil.Proofs.Numeric.Digits

/-!
# Values that can be shown

Writing a value takes nested calls, one part inside the other (`Value.calls`), and there is room for only so many of
them. Ordinary values for which there is room have a written form (`IsOrdinary.exists_literal`) and a text
(`IsShowable.toText_eq_ok`). Such values are closed under taking members (`IsShowable.of_find?`,
`IsShowable.of_attributeNamed`), so a template that starts from one of them comes to no others.
-/

namespace Stencil

open Numeric Temporal

namespace Value

/-! ## Nested calls -/

mutual

/-- The nested calls that the written form of a value takes. -/
def calls (value : Value) : Nat :=
  value.ownCalls + match value with
    | list items | tuple items => mostCalls items
    | mapping _ entries => mostEntryCalls entries
    | record _ _ fields _ _ => mostFieldCalls fields
    | member _ _ value => calls value
    | _ => 0

def mostCalls : List Value → Nat
  | [] => 0
  | value :: values => max (calls value) (mostCalls values)

def mostEntryCalls : List (Value × Value) → Nat
  | [] => 0
  | (key, value) :: entries => max (max (calls key) (calls value)) (mostEntryCalls entries)

def mostFieldCalls : List (String × Value) → Nat
  | [] => 0
  | (_, value) :: fields => max (calls value) (mostFieldCalls fields)

end

section Calls

variable (items : List Value) (readOnly : Bool) (entries : List (Value × Value)) (form : RecordForm)
  (typeName name : String) (fields : List (String × Value)) (methods : List String)
  (broken : List (String × Fault)) (value : Value)

theorem calls_list : (list items).calls = (list items).ownCalls + mostCalls items := by
  rfl

theorem calls_tuple : (tuple items).calls = (tuple items).ownCalls + mostCalls items := by
  rfl

theorem calls_mapping :
    (mapping readOnly entries).calls = (mapping readOnly entries).ownCalls + mostEntryCalls entries := by
  rfl

theorem calls_record : (record form typeName fields methods broken).calls =
    (record form typeName fields methods broken).ownCalls + mostFieldCalls fields := by
  rfl

theorem calls_member :
    (member typeName name value).calls = (member typeName name value).ownCalls + value.calls := by
  rfl

end Calls

theorem calls_le_mostCalls {item : Value} {items : List Value} (h : item ∈ items) :
    item.calls ≤ mostCalls items := by
  induction items with
  | nil => cases h
  | cons other items ih =>
      rw [mostCalls]
      rcases List.mem_cons.mp h with rfl | hitem
      · exact Nat.le_max_left _ _
      · exact Nat.le_trans (ih hitem) (Nat.le_max_right _ _)

theorem calls_le_mostEntryCalls {entry : Value × Value} {entries : List (Value × Value)} (h : entry ∈ entries) :
    entry.1.calls ≤ mostEntryCalls entries ∧ entry.2.calls ≤ mostEntryCalls entries := by
  induction entries with
  | nil => cases h
  | cons other entries ih =>
      obtain ⟨key, value⟩ := other
      rw [mostEntryCalls]
      rcases List.mem_cons.mp h with rfl | hentry
      · dsimp only
        omega
      · have hmost := ih hentry
        omega

theorem calls_le_mostFieldCalls {field : String × Value} {fields : List (String × Value)} (h : field ∈ fields) :
    field.2.calls ≤ mostFieldCalls fields := by
  induction fields with
  | nil => cases h
  | cons other fields ih =>
      obtain ⟨name, value⟩ := other
      rw [mostFieldCalls]
      rcases List.mem_cons.mp h with rfl | hfield
      · exact Nat.le_max_left _ _
      · exact Nat.le_trans (ih hfield) (Nat.le_max_right _ _)

section Inside

variable {items : List Value} {readOnly : Bool} {entries : List (Value × Value)} {form : RecordForm}
  {typeName name : String} {fields : List (String × Value)} {methods : List String}
  {broken : List (String × Fault)} {value : Value} {room : Nat}

/-! Where there is room for a value, there is room for its parts beside its own calls. -/

theorem calls_le_of_list (h : (list items).calls ≤ room) {item : Value} (hitem : item ∈ items) :
    item.calls ≤ room - (list items).ownCalls := by
  have hmost := calls_le_mostCalls hitem
  rw [calls_list] at h
  omega

theorem calls_le_of_tuple (h : (tuple items).calls ≤ room) {item : Value} (hitem : item ∈ items) :
    item.calls ≤ room - (tuple items).ownCalls := by
  have hmost := calls_le_mostCalls hitem
  rw [calls_tuple] at h
  omega

theorem calls_le_of_mapping (h : (mapping readOnly entries).calls ≤ room) {entry : Value × Value}
    (hentry : entry ∈ entries) :
    entry.1.calls ≤ room - (mapping readOnly entries).ownCalls ∧
      entry.2.calls ≤ room - (mapping readOnly entries).ownCalls := by
  have hmost := calls_le_mostEntryCalls hentry
  rw [calls_mapping] at h
  omega

theorem calls_le_of_record (h : (record form typeName fields methods broken).calls ≤ room)
    {field : String × Value} (hfield : field ∈ fields) :
    field.2.calls ≤ room - (record form typeName fields methods broken).ownCalls := by
  have hmost := calls_le_mostFieldCalls hfield
  rw [calls_record] at h
  omega

theorem calls_le_of_member (h : (member typeName name value).calls ≤ room) :
    value.calls ≤ room - (member typeName name value).ownCalls := by
  rw [calls_member] at h
  omega

end Inside

/-! ## Written forms -/

section Parts

variable {room : Nat}

theorem exists_literals {items : List Value} (h : ∀ item, item ∈ items → ∃ text, item.literal room = .ok text) :
    ∃ texts, literals room items = .ok texts := by
  induction items with
  | nil => exact ⟨[], rfl⟩
  | cons item items ih =>
      obtain ⟨text, htext⟩ := h item List.mem_cons_self
      obtain ⟨texts, htexts⟩ := ih fun other hother => h other (List.mem_cons_of_mem item hother)
      exact ⟨text :: texts, by rw [literals, htext, htexts]; rfl⟩

theorem exists_entryLiterals {entries : List (Value × Value)}
    (hkeys : ∀ entry, entry ∈ entries → ∃ text, entry.1.literal room = .ok text)
    (hvalues : ∀ entry, entry ∈ entries → ∃ text, entry.2.literal room = .ok text) :
    ∃ texts, entryLiterals room entries = .ok texts := by
  induction entries with
  | nil => exact ⟨[], rfl⟩
  | cons entry entries ih =>
      obtain ⟨keyText, hkey⟩ := hkeys entry List.mem_cons_self
      obtain ⟨text, hvalue⟩ := hvalues entry List.mem_cons_self
      obtain ⟨texts, htexts⟩ := ih (fun other hother => hkeys other (List.mem_cons_of_mem entry hother))
        fun other hother => hvalues other (List.mem_cons_of_mem entry hother)
      exact ⟨_, by rw [entryLiterals, hkey, hvalue, htexts]; rfl⟩

theorem exists_fieldLiterals {broken : List (String × Fault)} {fields : List (String × Value)}
    (hbroken : ∀ field, field ∈ fields → List.lookup field.1 broken = none)
    (h : ∀ field, field ∈ fields → ∃ text, field.2.literal room = .ok text) :
    ∃ texts, fieldLiterals room broken fields = .ok texts := by
  induction fields with
  | nil => exact ⟨[], rfl⟩
  | cons field fields ih =>
      obtain ⟨text, htext⟩ := h field List.mem_cons_self
      obtain ⟨texts, htexts⟩ := ih (fun other hother => hbroken other (List.mem_cons_of_mem field hother))
        fun other hother => h other (List.mem_cons_of_mem field hother)
      exact ⟨_, by rw [fieldLiterals, hbroken field List.mem_cons_self, htext, htexts]; rfl⟩

end Parts

/-- Where there is room for a value, there is room for its own calls. -/
theorem not_lt_ownCalls {value : Value} {room : Nat} (h : value.calls ≤ room) : ¬ room < value.ownCalls := by
  unfold calls at h
  omega

/-- Ordinary values have a written form, if there is room for the nested calls that it takes. -/
theorem IsOrdinary.exists_literal {value : Value} (h : value.IsOrdinary) {room : Nat} (hroom : value.calls ≤ room) :
    ∃ text, value.literal room = .ok text := by
  induction h generalizing room with
  | integer h | numberMember h =>
      unfold literal
      rw [if_neg (not_lt_ownCalls hroom)]
      dsimp only
      rw [integerText_of_le h]
      exact ⟨_, rfl⟩
  | list h ih =>
      obtain ⟨texts, htexts⟩ := exists_literals fun item hitem => ih item hitem (calls_le_of_list hroom hitem)
      unfold literal
      rw [if_neg (not_lt_ownCalls hroom)]
      dsimp only
      rw [htexts]
      exact ⟨_, rfl⟩
  | tuple h ih =>
      obtain ⟨texts, htexts⟩ := exists_literals fun item hitem => ih item hitem (calls_le_of_tuple hroom hitem)
      unfold literal
      rw [if_neg (not_lt_ownCalls hroom)]
      dsimp only
      rw [htexts]
      exact ⟨_, rfl⟩
  | mapping hkeys hvalues ihkeys ihvalues =>
      obtain ⟨texts, htexts⟩ := exists_entryLiterals
        (fun entry hentry => ihkeys entry hentry (calls_le_of_mapping hroom hentry).1)
        fun entry hentry => ihvalues entry hentry (calls_le_of_mapping hroom hentry).2
      unfold literal
      rw [if_neg (not_lt_ownCalls hroom)]
      dsimp only
      rw [htexts]
      exact ⟨_, rfl⟩
  | @record form typeName fields methods broken h hbroken ih =>
      obtain ⟨texts, htexts⟩ :
          ∃ texts, fieldLiterals _ (if form.readsMembers then broken else []) fields = .ok texts := by
        refine exists_fieldLiterals ?_ fun field hfield => ih field hfield (calls_le_of_record hroom hfield)
        intro field hfield
        split
        · exact hbroken.lookup_field hfield
        · rfl
      unfold literal
      rw [if_neg (not_lt_ownCalls hroom)]
      dsimp only
      rw [hbroken.lookup_class, ite_self, htexts]
      exact ⟨_, rfl⟩
  | member h ih =>
      obtain ⟨text, htext⟩ := ih (calls_le_of_member hroom)
      unfold literal
      rw [if_neg (not_lt_ownCalls hroom)]
      dsimp only
      rw [htext]
      exact ⟨_, rfl⟩
  | _ =>
      unfold literal
      rw [if_neg (not_lt_ownCalls hroom)]
      exact ⟨_, rfl⟩

/-- Lists within lists, around an empty one. -/
def nestedLists : Nat → Value
  | 0 => list []
  | n + 1 => list [nestedLists n]

/-- Lists that are nested deeper than there is room for have no written form. -/
theorem literal_nestedLists_of_le {room depth : Nat} (h : room ≤ depth) :
    (nestedLists depth).literal room = .error .tooDeep := by
  induction depth generalizing room with
  | zero =>
      rw [Nat.le_zero.mp h]
      rfl
  | succ depth ih =>
      cases room with
      | zero => rfl
      | succ room =>
          have hinside := ih (Nat.le_of_succ_le_succ h)
          rw [nestedLists, literal, if_neg (by simp [ownCalls])]
          simp only [ownCalls, Nat.add_sub_cancel, literals, hinside]
          rfl

/-! ## Texts and formats -/

/-- An ordinary value for which there is room. -/
structure IsShowable (value : Value) : Prop where
  isOrdinary : value.IsOrdinary
  calls_le : value.calls ≤ room

namespace IsShowable

variable {value : Value}

theorem toText_eq_ok (h : value.IsShowable) : ∃ text, value.toText = .ok text := by
  obtain ⟨hordinary, hcalls⟩ := h
  have hliteral := hordinary.exists_literal hcalls
  cases hordinary with
  | decimal | text | date | moment | time | span | zone | member => exact ⟨_, rfl⟩
  | numberMember h =>
      rw [toText, integerText_of_le h]
      exact ⟨_, rfl⟩
  | @mapping readOnly entries hkeys hvalues =>
      cases readOnly with
      | false => exact hliteral
      | true =>
          -- the mapping behind a read-only one takes one call less
          refine IsOrdinary.exists_literal (.mapping hkeys hvalues) ?_
          have hone : (Value.mapping true entries).calls = (Value.mapping false entries).calls + 1 := by
            rw [calls_mapping, calls_mapping]
            simp only [ownCalls]
            omega
          omega
  | @record form typeName fields methods broken h hbroken =>
      cases form with
      | model =>
          obtain ⟨texts, htexts⟩ : ∃ texts, fieldLiterals _ [] fields = .ok texts :=
            exists_fieldLiterals (fun _ _ => rfl) fun field hfield =>
              (h field hfield).exists_literal (calls_le_of_record hcalls hfield)
          rw [toText, htexts]
          exact ⟨_, rfl⟩
      | _ => exact hliteral
  | _ => exact hliteral

theorem plainText_eq_ok (h : value.IsShowable) : ∃ text, value.plainText = .ok text := by
  unfold plainText
  split
  · exact ⟨_, rfl⟩
  · exact h.toText_eq_ok

/-- A format that does not apply to a value that can be shown is refused. -/
theorem refusesOnly_format (h : value.IsShowable) (format : String) : RefusesOnly (value.format format) := by
  obtain ⟨text, htext⟩ := h.toText_eq_ok
  refine refusesOnly_format_of_toText htext ?_
  rintro typeName text rule rfl
  cases h.isOrdinary

/-! ## Members -/

/-- An ordinary value without parts can be shown. -/
theorem of_flat (h : value.IsOrdinary) (hflat : value.calls = 1) : value.IsShowable :=
  ⟨h, by rw [hflat]; decide⟩

theorem integer {n : Int} (h : digitCount n.natAbs ≤ maxDigits) : (Value.integer n).IsShowable :=
  of_flat (.integer h) rfl

/-- A number of at most ten digits can be shown. -/
theorem integer_of_lt {n : Int} (h : n.natAbs < 10 ^ 10) : (Value.integer n).IsShowable :=
  integer (Nat.le_trans ((digitCount_le_iff (by decide)).mpr h) (by decide))

theorem nothing : Value.nothing.IsShowable :=
  of_flat .nothing rfl

theorem text (s : String) : (Value.text s).IsShowable :=
  of_flat (.text s) rfl

end IsShowable

/-- A value that is there or not can be shown if it is there. -/
def AllShowable (found : Option Value) : Prop :=
  ∀ value, found = some value → value.IsShowable

namespace AllShowable

theorem some {value : Value} (h : value.IsShowable) : AllShowable (.some value) := by
  intro other hother
  cases hother
  exact h

theorem none : AllShowable .none := by
  intro value h
  cases h

theorem orElse {first : Option Value} {second : Option Value} (hfirst : AllShowable first)
    (hsecond : AllShowable second) : AllShowable (first <|> second) := by
  cases first with
  | none => exact hsecond
  | some value => exact hfirst

/-- An ordinary value without parts can be shown if it is there. -/
theorem flat {value : Value} (h : value.IsOrdinary) (hflat : value.calls = 1) : AllShowable (.some value) :=
  some (.of_flat h hflat)

end AllShowable

theorem allShowable_integerAttribute? {n : Int} (h : digitCount n.natAbs ≤ maxDigits) (name : String) :
    AllShowable (integerAttribute? n name) := by
  unfold integerAttribute?
  split
  · exact .some (.integer h)
  · exact .some (.integer h)
  · exact .some (.integer_of_lt (by decide))
  · exact .some (.integer_of_lt (by decide))
  · exact .none

theorem allShowable_dateAttribute? (date : Date) (name : String) :
    AllShowable (dateAttribute? date name) := by
  have hyear := date.year_le
  have hmonth := date.month_le
  have hday := Nat.le_trans date.day_le (daysInMonth_le _ _)
  rw [lastYear] at hyear
  unfold dateAttribute?
  split
  · exact .some (.integer_of_lt (by omega))
  · exact .some (.integer_of_lt (by omega))
  · exact .some (.integer_of_lt (by omega))
  · exact .none

theorem allShowable_clockAttribute? (clock : Clock) (zone : Option Zone) (name : String) :
    AllShowable (clockAttribute? clock zone name) := by
  have hhour := clock.hour_lt
  have hminute := clock.minute_lt
  have hsecond := clock.second_lt
  have hmicro := clock.micro_lt
  unfold clockAttribute?
  split
  · exact .some (.integer_of_lt (by omega))
  · exact .some (.integer_of_lt (by omega))
  · exact .some (.integer_of_lt (by omega))
  · exact .some (.integer_of_lt (by omega))
  · cases zone with
    | none => exact .some .nothing
    | some zone => exact .flat (.zone zone) rfl
  · exact .some (.integer_of_lt (by decide))
  · exact .none

theorem allShowable_boundAttribute? {least greatest : Value} (hleast : least.IsShowable)
    (hgreatest : greatest.IsShowable) {step : Span} (hstep : step.days.natAbs ≤ Span.maxDays) (name : String) :
    AllShowable (boundAttribute? least greatest step name) := by
  unfold boundAttribute?
  split
  · exact .some hleast
  · exact .some hgreatest
  · exact .flat (.span hstep) rfl
  · exact .none

theorem allShowable_spanAttribute? {span : Span} (h : span.days.natAbs ≤ Span.maxDays) (name : String) :
    AllShowable (spanAttribute? span name) := by
  have hseconds : span.seconds < 10 ^ 10 := by
    rw [Span.seconds, microsPerDay, microsPerSecond]
    omega
  have hmicroseconds : span.microseconds < 10 ^ 10 := by
    rw [Span.microseconds, microsPerSecond]
    omega
  rw [Span.maxDays] at h
  unfold spanAttribute?
  split
  · exact .some (.integer_of_lt (by omega))
  · exact .some (.integer_of_lt hseconds)
  · exact .some (.integer_of_lt hmicroseconds)
  · exact .none

namespace IsShowable

variable {value : Value}

theorem allShowable_ownAttribute? (h : value.IsShowable) (name : String) :
    AllShowable (value.ownAttribute? name) := by
  have hcalls := h.calls_le
  cases h.isOrdinary with
  | boolean b =>
      refine allShowable_integerAttribute? ?_ name
      cases b <;> decide
  | integer hdigits => exact allShowable_integerAttribute? hdigits name
  | binary x =>
      unfold ownAttribute?
      dsimp only
      split
      · exact .flat (.binary _) rfl
      · exact .flat (.binary _) rfl
      · exact .none
  | decimal d =>
      unfold ownAttribute?
      dsimp only
      split
      · exact .flat (.decimal _) rfl
      · exact .flat (.decimal _) rfl
      · exact .none
  | date d =>
      exact .orElse (allShowable_dateAttribute? d name)
        (allShowable_boundAttribute? (.of_flat (.date _) rfl) (.of_flat (.date _) rfl) (by decide) name)
  | moment m =>
      exact .orElse (allShowable_dateAttribute? m.date name)
        (.orElse (allShowable_clockAttribute? m.clock m.zone name)
          (allShowable_boundAttribute? (.of_flat (.moment _) rfl) (.of_flat (.moment _) rfl) (by decide) name))
  | time t =>
      exact .orElse (allShowable_clockAttribute? t.clock t.zone name)
        (allShowable_boundAttribute? (.of_flat (.time _) rfl) (.of_flat (.time _) rfl) (by decide) name)
  | span hspan =>
      exact .orElse (allShowable_spanAttribute? hspan name)
        (allShowable_boundAttribute? (.of_flat (.span (by decide)) rfl) (.of_flat (.span (by decide)) rfl)
          (by decide) name)
  | zone z =>
      unfold ownAttribute?
      dsimp only
      split
      · exact .flat (.zone _) rfl
      · exact .flat (.zone _) rfl
      · exact .flat (.zone _) rfl
      · exact .none
  | member hvalue =>
      have hinside := calls_le_of_member hcalls
      unfold ownAttribute?
      dsimp only
      split
      · exact .some (.text _)
      · exact .some ⟨hvalue, by omega⟩
      · exact .none
  | numberMember hdigits =>
      unfold ownAttribute?
      dsimp only
      split
      · exact .some (.text _)
      · exact .some (.integer hdigits)
      · exact allShowable_integerAttribute? hdigits _
  | _ => exact .none

theorem allShowable_fields {fields : List (String × Value)}
    (h : ∀ field, field ∈ fields → field.2.IsShowable) (name : String) :
    AllShowable (Fields.find? fields name) := by
  intro found hfound
  obtain ⟨before, behind, hfields, _⟩ := List.lookup_eq_some_iff.mp hfound
  exact h (name, found) (by rw [hfields]; simp)

/-- What is found among the attributes of a value that can be shown can be shown. -/
theorem of_attributeNamed (h : value.IsShowable) {name : String} {found : Value}
    (hfound : value.attributeNamed name = .found found) : found.IsShowable := by
  unfold attributeNamed at hfound
  split at hfound
  · split at hfound
    · cases hfound
    · cases hfound
  · split at hfound
    · next form typeName fields methods broken =>
        cases h.isOrdinary with
        | record hfields hbroken =>
            refine AllShowable.orElse (allShowable_fields (fun field hfield => ⟨hfields field hfield, ?_⟩) name)
              ?_ found (Attribute.eq_some_of_ofOption hfound)
            · exact Nat.le_trans (calls_le_of_record h.calls_le hfield) (Nat.sub_le _ _)
            · split
              · exact .flat .routine rfl
              · exact .none
    · exact h.allShowable_ownAttribute? name found (Attribute.eq_some_of_ofOption hfound)

/-- What is found in a mapping that can be shown can be shown. -/
theorem of_find? {readOnly : Bool} {entries : List (Value × Value)}
    (h : (Value.mapping readOnly entries).IsShowable) {name : String} {found : Value}
    (hfound : Entries.find? entries name = some found) : found.IsShowable := by
  unfold Entries.find? at hfound
  obtain ⟨entry, hentry, hvalue⟩ := List.exists_of_findSome?_eq_some hfound
  obtain ⟨key, value⟩ := entry
  have hinside := (calls_le_of_mapping h.calls_le hentry).2
  dsimp only at hvalue hinside
  split at hvalue
  · split at hvalue
    · cases hvalue
      cases h.isOrdinary with
      | mapping hkeys hvalues => exact ⟨hvalues _ hentry, by omega⟩
    · cases hvalue
  · cases hvalue

end IsShowable

end Value

end Stencil
