import Stencil.Proofs.Lookup.Chains
import Stencil.Proofs.Lookup.Walk

/-!
# What templates can reach

Templates come from authors who are not trusted with everything that the data know. With the standard resolver
they reach data and nothing else: every step of a walk reads an entry of a mapping, or an attribute that is
public and no function (`Lookup.ReadsData`).

* `Lookup.finds_standard_iff`: the standard resolver finds a member exactly if it is such data.
* `Lookup.result_standard_eq_error_iff`: it ends in a fault exactly if one escapes from the member
  (`Lookup.Escapes`).
* `Lookup.walk_reaches_only_data`: along every path, with all steps together, and with properties that raise
  faults on the way.
-/

namespace Stencil

/-! ## Entries of a mapping -/

namespace Entries

/-- The first entry whose key is this text holds the value. -/
def Holds (entries : Entries) (name : String) (value : Value) : Prop :=
  ∃ before behind, entries = before ++ (.text name, value) :: behind ∧
    ∀ entry, entry ∈ before → entry.1 ≠ .text name

theorem find?_cons_of_eq (name : String) (value : Value) (entries : Entries) :
    find? ((.text name, value) :: entries) name = some value := by
  simp [find?]

theorem find?_cons_of_ne {key : Value} {name : String} (h : key ≠ .text name) (value : Value)
    (entries : Entries) : find? ((key, value) :: entries) name = find? entries name := by
  cases key with
  | text other =>
      have hother : other ≠ name := by
        rintro rfl
        exact h rfl
      simp [find?, hother]
  | _ => rfl

theorem find?_eq_some_iff {entries : Entries} {name : String} {value : Value} :
    find? entries name = some value ↔ Holds entries name value := by
  induction entries with
  | nil =>
      constructor
      · intro h
        cases h
      · rintro ⟨before, behind, hsplit, -⟩
        simp at hsplit
  | cons entry entries ih =>
      obtain ⟨key, other⟩ := entry
      by_cases hkey : key = .text name
      · subst hkey
        rw [find?_cons_of_eq, Option.some_inj]
        constructor
        · rintro rfl
          exact ⟨[], entries, rfl, List.forall_mem_nil _⟩
        · rintro ⟨before, behind, hsplit, hbefore⟩
          rcases List.cons_eq_append_iff.mp hsplit with ⟨rfl, hcons⟩ | ⟨rest, rfl, -⟩
          · exact (Prod.mk.inj (List.cons.inj hcons).1).2.symm
          · exact absurd rfl (hbefore _ List.mem_cons_self)
      · rw [find?_cons_of_ne hkey, ih]
        constructor
        · rintro ⟨before, behind, rfl, hbefore⟩
          refine ⟨(key, other) :: before, behind, rfl, ?_⟩
          intro entry hentry
          rcases List.mem_cons.mp hentry with rfl | hentry
          · exact hkey
          · exact hbefore entry hentry
        · rintro ⟨before, behind, hsplit, hbefore⟩
          rcases List.cons_eq_append_iff.mp hsplit with ⟨rfl, hcons⟩ | ⟨rest, rfl, hrest⟩
          · simp [hkey, eq_comm] at hcons
          · exact ⟨rest, behind, hrest, fun entry hentry => hbefore entry (List.mem_cons_of_mem _ hentry)⟩

theorem find?_eq_none_iff {entries : Entries} {name : String} :
    find? entries name = none ↔ ∀ entry, entry ∈ entries → entry.1 ≠ .text name := by
  induction entries with
  | nil => simp [find?]
  | cons entry entries ih =>
      obtain ⟨key, value⟩ := entry
      by_cases hkey : key = .text name
      · subst hkey
        simp [find?_cons_of_eq]
      · rw [find?_cons_of_ne hkey, ih, List.forall_mem_cons]
        simp [hkey]

end Entries

/-- The value is a mapping with an entry whose key is this text. -/
def Value.HasKey (value : Value) (name : String) : Prop :=
  ∃ readOnly entries found, value = .mapping readOnly entries ∧ (.text name, found) ∈ entries

namespace Value

variable {value : Value} {name : String} {fault : Fault}

/-- A property that raises a fault is no value. -/
theorem attributeNamed_ne_found_of_raised (h : value.raisedBy? name = some fault) (found : Value) :
    value.attributeNamed name ≠ .found found := by
  unfold attributeNamed
  rw [h]
  dsimp only
  split
  · simp
  · simp

theorem attributeNamed_eq_broken_iff :
    value.attributeNamed name = .broken fault ↔
      value.raisedBy? name = some fault ∧ fault.kind ≠ .missingAttribute := by
  unfold attributeNamed
  cases hraised : value.raisedBy? name with
  | some other =>
      dsimp only
      split
      · next hmissing =>
          constructor
          · intro h
            cases h
          · rintro ⟨hsame, hkind⟩
            cases hsame
            exact absurd hmissing hkind
      · next hkind =>
          constructor
          · intro h
            cases h
            exact ⟨rfl, hkind⟩
          · rintro ⟨hsame, -⟩
            cases hsame
            rfl
  | none =>
      refine iff_of_false ?_ ?_
      · cases value with
        | _ => exact Attribute.ofOption_ne_broken _ _
      · simp

end Value

namespace Lookup

/-! ## Steps that read data -/

/-- A name that is not empty and does not start with an underscore. -/
def IsPublicName (name : String) : Prop :=
  name ≠ "" ∧ ∀ rest, name ≠ "_" ++ rest

theorem isPublic_iff {name : String} : isPublic name = true ↔ IsPublicName name := by
  have hempty : name = "" ↔ name.toList = [] := String.toList_eq_nil_iff.symm
  have hstarts : (∃ rest, name = "_" ++ rest) ↔ ∃ chars, name.toList = '_' :: chars := by
    constructor
    · rintro ⟨rest, rfl⟩
      exact ⟨rest.toList, by simp⟩
    · rintro ⟨chars, hchars⟩
      refine ⟨String.ofList chars, ?_⟩
      rw [← String.toList_inj, hchars]
      simp
  rw [IsPublicName, isPublic, Ne, hempty, ← not_exists, hstarts]
  cases name.toList with
  | nil => simp
  | cons c chars => simp

/-- A step to data: it reads the entry of a mapping under a key that is this text, or an attribute with a
public name whose value is no function. An attribute is read only of something, and of a mapping only if it
has no such key; and both what it is read of and its value tell of their class. -/
inductive ReadsData : Value → String → Value → Prop
  | ofEntry {readOnly : Bool} {entries : List (Value × Value)} {name : String} {value : Value} :
      Entries.Holds entries name value → ReadsData (.mapping readOnly entries) name value
  | ofAttribute {target : Value} {name : String} {value : Value} :
      target ≠ .nothing → ¬ target.HasKey name → IsPublicName name →
        target.attributeNamed name = .found value → value ≠ .routine →
          target.classFault? = none → value.typeFault? = none → ReadsData target name value

/-- A fault that nothing holds back when the member of this name is read: that of asking the value for its
class; that of a property, if it is an interrupt, or that of putting it into words; or that of testing the type
of what is found. -/
inductive Escapes (target : Value) (name : String) : Fault → Prop
  | ofClass {fault : Fault} : target.classFault? = some fault → Escapes target name fault
  | ofProperty {raised fault : Fault} :
      target.classFault? = none → IsPublicName name → target.raisedBy? name = some raised →
        raised.kind ≠ .missingAttribute → raised.caught = .error fault → Escapes target name fault
  | ofFound {found : Value} {fault : Fault} :
      target.classFault? = none → IsPublicName name → target.attributeNamed name = .found found →
        found.typeFault? = some fault → Escapes target name fault

section Steps

variable {voice : Voice} {target value : Value} {name : String} {fault : Fault}

theorem ReadsData.target_ne_nothing (h : ReadsData target name value) : target ≠ .nothing := by
  cases h with
  | ofEntry => simp
  | ofAttribute hnothing => exact hnothing

/-- What raises a fault when it is read is no data. -/
theorem ReadsData.raisedBy?_eq_none (h : ReadsData target name value) : target.raisedBy? name = none := by
  cases h with
  | ofEntry => rfl
  | ofAttribute _ _ _ hfound =>
      cases hraised : target.raisedBy? name with
      | none => rfl
      | some fault => exact absurd hfound (Value.attributeNamed_ne_found_of_raised hraised _)

theorem Escapes.target_ne_nothing (h : Escapes target name fault) : target ≠ .nothing := by
  rintro rfl
  cases h with
  | ofClass hclass => cases hclass
  | ofProperty _ _ hraised => cases hraised
  | ofFound _ _ hfound => cases hfound

/-- Nothing escapes from a mapping. -/
theorem not_escapes_mapping (readOnly : Bool) (pairs : List (Value × Value)) :
    ¬ Escapes (.mapping readOnly pairs) name fault := by
  intro h
  cases h with
  | ofClass hclass => cases hclass
  | ofProperty _ _ hraised => cases hraised
  | ofFound _ _ hfound => cases hfound

theorem entries_mapping (readOnly : Bool) (pairs : List (Value × Value)) :
    entries (.mapping readOnly pairs) name = pure (match Entries.find? pairs name with
      | some value => .ok value
      | none => missing (.mapping readOnly pairs) name) := by
  rfl

/-- What is no mapping has no entries, and is asked for its class. -/
theorem entries_of_no_mapping (h : ¬ ∃ readOnly pairs, target = .mapping readOnly pairs) :
    entries target name = match target.classFault? with
      | some fault => Noted.fail fault
      | none => pure (missing target name) := by
  cases target with
  | mapping readOnly pairs => exact absurd ⟨readOnly, pairs, rfl⟩ h
  | _ => rfl

theorem result_entries_eq_found_iff :
    (entries target name).result voice = .ok (.ok value) ↔
      ∃ readOnly pairs, target = .mapping readOnly pairs ∧ Entries.Holds pairs name value := by
  by_cases hmapping : ∃ readOnly pairs, target = .mapping readOnly pairs
  · obtain ⟨readOnly, pairs, rfl⟩ := hmapping
    have hone : (∃ other others, Value.mapping readOnly pairs = .mapping other others ∧
        Entries.Holds others name value) ↔ Entries.Holds pairs name value := by
      constructor
      · rintro ⟨other, others, hsame, hholds⟩
        cases hsame
        exact hholds
      · exact fun hholds => ⟨readOnly, pairs, rfl, hholds⟩
    rw [hone, ← Entries.find?_eq_some_iff, entries_mapping, Noted.result_pure]
    cases Entries.find? pairs name with
    | none => simp [missing]
    | some found => simp
  · refine iff_of_false ?_ ?_
    · rw [entries_of_no_mapping hmapping]
      cases target.classFault? with
      | none => simp [missing]
      | some fault => simp
    · rintro ⟨readOnly, pairs, hsame, -⟩
      exact hmapping ⟨readOnly, pairs, hsame⟩

/-- Reading entries ends in a fault where a value that is no mapping does not tell of its class. -/
theorem result_entries_eq_error_iff :
    (entries target name).result voice = .error fault ↔ target.classFault? = some fault := by
  by_cases hmapping : ∃ readOnly pairs, target = .mapping readOnly pairs
  · obtain ⟨readOnly, pairs, rfl⟩ := hmapping
    simp [entries_mapping, Value.classFault?, Value.raisedBy?]
  · rw [entries_of_no_mapping hmapping]
    cases target.classFault? with
    | none => simp
    | some other => simp

theorem hasKey_mapping_iff {readOnly : Bool} {pairs : List (Value × Value)} :
    (Value.mapping readOnly pairs).HasKey name ↔ Entries.find? pairs name ≠ none := by
  rw [Ne, Entries.find?_eq_none_iff]
  constructor
  · rintro ⟨other, others, found, hsame, hentry⟩ hkeys
    cases hsame
    exact hkeys _ hentry rfl
  · refine fun hkeys => Classical.byContradiction fun hnone => hkeys ?_
    rintro ⟨key, found⟩ hentry rfl
    exact hnone ⟨readOnly, pairs, found, rfl, hentry⟩

theorem findsNothing_entries_iff :
    Resolver.FindsNothing voice target name .entries ↔
      ¬ target.HasKey name ∧ target.classFault? = none := by
  rw [Resolver.FindsNothing, Resolver.lookup]
  by_cases hmapping : ∃ readOnly pairs, target = .mapping readOnly pairs
  · obtain ⟨readOnly, pairs, rfl⟩ := hmapping
    rw [hasKey_mapping_iff, entries_mapping]
    cases Entries.find? pairs name with
    | none => simp [missing, Value.classFault?, Value.raisedBy?]
    | some found => simp
  · have hkey : ¬ target.HasKey name := by
      rintro ⟨readOnly, pairs, found, hsame, -⟩
      exact hmapping ⟨readOnly, pairs, hsame⟩
    rw [entries_of_no_mapping hmapping]
    cases target.classFault? with
    | none => simp [missing, hkey]
    | some fault => simp

/-- Attributes are read unless the target is nothing or the name is not public. -/
theorem isHidden_iff : (target.isNothing || !isPublic name) = true ↔ ¬ (target ≠ .nothing ∧ IsPublicName name) := by
  rw [← isPublic_iff, Ne, ← Value.isNothing_iff]
  cases target.isNothing with
  | _ => simp

theorem result_attributes_eq_found_iff :
    (attributes target name).result voice = .ok (.ok value) ↔
      target ≠ .nothing ∧ IsPublicName name ∧ target.attributeNamed name = .found value ∧
        value ≠ .routine ∧ value.typeFault? = none := by
  rw [attributes]
  split
  · next hguard =>
      have hhidden := isHidden_iff.mp hguard
      constructor
      · intro h
        cases h
      · rintro ⟨hnothing, hname, -⟩
        exact absurd ⟨hnothing, hname⟩ hhidden
  · next hguard =>
      obtain ⟨hnothing, hname⟩ := Classical.not_not.mp (mt isHidden_iff.mpr hguard)
      simp only [hnothing, hname, ne_eq, not_false_eq_true, true_and]
      cases target.attributeNamed name with
      | absent => simp [missing]
      | broken fault =>
          dsimp only
          cases fault.caught with
          | _ => simp
      | found found =>
          dsimp only
          cases htype : found.typeFault? with
          | some fault =>
              refine iff_of_false (by simp) ?_
              rintro ⟨hfound, -, hnone⟩
              cases hfound
              rw [htype] at hnone
              cases hnone
          | none =>
              dsimp only
              rw [Noted.result_pure]
              constructor
              · intro h
                split at h
                · cases h
                · next hdata =>
                    cases h
                    exact ⟨rfl, mt Value.isRoutine_iff.mpr hdata, htype⟩
              · rintro ⟨hfound, hdata, -⟩
                cases hfound
                rw [if_neg (mt Value.isRoutine_iff.mp hdata)]

/-- Reading attributes ends in a fault where a property raises one that is not held back, and where what is found
does not tell of its type. -/
theorem result_attributes_eq_error_iff :
    (attributes target name).result voice = .error fault ↔
      IsPublicName name ∧
        ((∃ raised, target.raisedBy? name = some raised ∧ raised.kind ≠ .missingAttribute ∧
            raised.caught = .error fault) ∨
          ∃ found, target.attributeNamed name = .found found ∧ found.typeFault? = some fault) := by
  have hbroken : (∃ raised, target.raisedBy? name = some raised ∧ raised.kind ≠ .missingAttribute ∧
      raised.caught = .error fault) ↔
        ∃ raised, target.attributeNamed name = .broken raised ∧ raised.caught = .error fault := by
    simp only [Value.attributeNamed_eq_broken_iff, and_assoc]
  rw [hbroken, attributes]
  split
  · next hguard =>
      refine iff_of_false (by simp) ?_
      have hhidden := isHidden_iff.mp hguard
      rintro ⟨hname, ⟨raised, hraised, -⟩ | ⟨found, hfound, -⟩⟩
      · refine hhidden ⟨?_, hname⟩
        rintro rfl
        cases hraised
      · refine hhidden ⟨?_, hname⟩
        rintro rfl
        cases hfound
  · next hguard =>
      obtain ⟨-, hname⟩ := Classical.not_not.mp (mt isHidden_iff.mpr hguard)
      simp only [hname, true_and]
      cases target.attributeNamed name with
      | absent => simp [missing]
      | broken raised =>
          dsimp only
          cases hcaught : raised.caught with
          | _ => simp [hcaught]
      | found found =>
          dsimp only
          cases htype : found.typeFault? with
          | _ => simp [htype]

/-- The standard resolver finds a member exactly if it is data that templates may read. -/
theorem finds_standard_iff :
    Resolver.standard.lookup.Finds voice target name value ↔ ReadsData target name value := by
  by_cases htarget : target = .nothing
  · subst htarget
    constructor
    · intro h
      rw [Finds, Resolver.standard, Resolver.lookup_chain_nothing] at h
      cases h
    · exact fun h => absurd rfl h.target_ne_nothing
  · have hnone : (Resolver.lookupFirst [] target name).result voice ≠ .ok (.ok value) := by
      simp [Resolver.lookupFirst.eq_1, missing]
    rw [Finds, Resolver.standard, Resolver.lookup_chain_of_ne_nothing htarget,
      Resolver.result_lookupFirst_cons_eq_found_iff, Resolver.result_lookupFirst_cons_eq_found_iff,
      findsNothing_entries_iff, Resolver.lookup, Resolver.lookup, result_entries_eq_found_iff,
      result_attributes_eq_found_iff]
    constructor
    · rintro (⟨readOnly, pairs, rfl, hholds⟩ |
        ⟨⟨hkey, hclass⟩, ⟨hnothing, hname, hfound, hdata, htype⟩ | ⟨-, hmore⟩⟩)
      · exact .ofEntry hholds
      · exact .ofAttribute hnothing hkey hname hfound hdata hclass htype
      · exact absurd hmore hnone
    · intro h
      cases h with
      | ofEntry hholds => exact .inl ⟨_, _, rfl, hholds⟩
      | ofAttribute hnothing hkey hname hfound hdata hclass htype =>
          exact .inr ⟨⟨hkey, hclass⟩, .inl ⟨hnothing, hname, hfound, hdata, htype⟩⟩

/-- The standard resolver ends in a fault exactly if one escapes. -/
theorem result_standard_eq_error_iff :
    (Resolver.standard.lookup target name).result voice = .error fault ↔ Escapes target name fault := by
  by_cases htarget : target = .nothing
  · subst htarget
    constructor
    · intro h
      rw [Resolver.standard, Resolver.lookup_chain_nothing] at h
      cases h
    · exact fun h => absurd rfl h.target_ne_nothing
  · have hnone : (Resolver.lookupFirst [] target name).result voice ≠ .error fault := by
      simp [Resolver.lookupFirst.eq_1]
    rw [Resolver.standard, Resolver.lookup_chain_of_ne_nothing htarget,
      Resolver.result_lookupFirst_cons_eq_error_iff, Resolver.result_lookupFirst_cons_eq_error_iff,
      findsNothing_entries_iff, Resolver.lookup, Resolver.lookup, result_entries_eq_error_iff,
      result_attributes_eq_error_iff]
    constructor
    · rintro (hclass |
        ⟨⟨-, hclass⟩, ⟨hname, ⟨raised, hraised, hkind, hcaught⟩ | ⟨found, hfound, htype⟩⟩ | ⟨-, hmore⟩⟩)
      · exact .ofClass hclass
      · exact .ofProperty hclass hname hraised hkind hcaught
      · exact .ofFound hclass hname hfound htype
      · exact absurd hmore hnone
    · intro h
      -- a fault can escape from what is no mapping only
      have hkey : ¬ target.HasKey name := by
        rintro ⟨readOnly, pairs, found, rfl, -⟩
        exact not_escapes_mapping readOnly pairs h
      cases h with
      | ofClass hclass => exact .inl hclass
      | ofProperty hclass hname hraised hkind hcaught =>
          exact .inr ⟨⟨hkey, hclass⟩, .inl ⟨hname, .inl ⟨_, hraised, hkind, hcaught⟩⟩⟩
      | ofFound hclass hname hfound htype =>
          exact .inr ⟨⟨hkey, hclass⟩, .inl ⟨hname, .inr ⟨_, hfound, htype⟩⟩⟩

end Steps

/-! ## Walks -/

/-- The trails of the standard resolver are those whose steps read data. -/
theorem trail_standard_iff {voice : Voice} {target found : Value} {path : List String} :
    Trail (Resolver.standard.lookup.Finds voice) target path found ↔
      Trail ReadsData target path found := by
  have hsteps : Resolver.standard.lookup.Finds voice = ReadsData := by
    funext target name value
    exact propext finds_standard_iff
  rw [hsteps]

/-- The walk of the standard resolver ends in a fault exactly if its trail comes to a step from which one
escapes. -/
theorem result_walk_standard_eq_error_iff {voice : Voice} {target : Value} {path : List String} {fault : Fault} :
    (Resolver.standard.lookup.walk target path).result voice = .error fault ↔
      ∃ before name behind reached, path = before ++ name :: behind ∧
        Trail ReadsData target before reached ∧ Escapes reached name fault := by
  by_cases hpath : path = []
  · subst hpath
    refine iff_of_false ?_ ?_
    · intro h
      cases h
    · rintro ⟨before, name, behind, reached, hsplit, -⟩
      simp at hsplit
  · rw [walk_of_ne_nil target hpath, result_walkFrom_eq_error_iff]
    simp only [trail_standard_iff, result_standard_eq_error_iff]

/-- Where nothing escapes from a property that raises a fault, the walk breaks off. -/
theorem breaksOff_of_raised {target reached : Value} {before : List String} {name : String} {fault : Fault}
    (htrail : Trail ReadsData target before reached) (hraised : reached.raisedBy? name = some fault)
    (hheld : ∀ escaping, ¬ Escapes reached name escaping) (behind : List String) (voice : Voice) :
    ∃ cause, BreaksOff Resolver.standard.lookup voice target (before ++ name :: behind) before.length
      cause := by
  rcases hanswer : (Resolver.standard.lookup reached name).result voice with escaping | cause | value
  · exact absurd (result_standard_eq_error_iff.mp hanswer) (hheld escaping)
  · refine ⟨cause, by simp, reached, ?_, ?_⟩
    · rw [List.take_left]
      exact trail_standard_iff.mpr htrail
    · simpa using hanswer
  · have hdata := (finds_standard_iff.mp hanswer).raisedBy?_eq_none
    rw [hraised] at hdata
    cases hdata

/-- For every target and every path, in every voice: the walk with the standard resolver finds a value exactly if
the path is not empty and a trail leads to the value on which every step reads data, that is, an entry of a
mapping under a key that is the name, or, of a value that is there and has no such key, an attribute whose name
is not empty and does not start with an underscore and whose value is no function. The walk ends in a fault
exactly if such a trail comes to a step from which a fault escapes. And where it comes to a property that raises
a fault, the walk finds nothing, and the reason shows the path up to that property, exactly if no fault escapes
from there. -/
theorem walk_reaches_only_data (target : Value) (path : List String) (voice : Voice) :
    (∀ found, (Resolver.standard.lookup.walk target path).result voice = .ok (.ok found) ↔
      path ≠ [] ∧ Trail ReadsData target path found) ∧
    (∀ fault, (Resolver.standard.lookup.walk target path).result voice = .error fault ↔
      ∃ before name behind reached, path = before ++ name :: behind ∧
        Trail ReadsData target before reached ∧ Escapes reached name fault) ∧
    ∀ before name behind reached fault, path = before ++ name :: behind →
      Trail ReadsData target before reached → reached.raisedBy? name = some fault →
        ((∃ cause, (Resolver.standard.lookup.walk target path).result voice =
            .ok (.error (.unresolved (before ++ [name]) cause))) ↔
          ∀ escaping, ¬ Escapes reached name escaping) := by
  refine ⟨?_, fun fault => result_walk_standard_eq_error_iff, ?_⟩
  · intro found
    by_cases hpath : path = []
    · subst hpath
      constructor
      · intro h
        cases h
      · rintro ⟨hpath, -⟩
        contradiction
    · rw [result_walk_eq_found_iff hpath, trail_standard_iff]
      exact ⟨fun h => ⟨hpath, h⟩, And.right⟩
  · rintro before name behind reached fault rfl htrail hraised
    constructor
    · rintro ⟨cause, hcause⟩ escaping hescapes
      have hfault : (Resolver.standard.lookup.walk target (before ++ name :: behind)).result voice =
          .error escaping :=
        result_walk_standard_eq_error_iff.mpr ⟨before, name, behind, reached, rfl, htrail, hescapes⟩
      rw [hcause] at hfault
      cases hfault
    · intro hheld
      obtain ⟨cause, hbreaks⟩ := breaksOff_of_raised htrail hraised hheld behind voice
      refine ⟨cause, ?_⟩
      rw [walk_of_ne_nil target (by simp), result_walkFrom_of_breaksOff [] hbreaks,
        List.take_length_add_append]
      rfl

/-- A property that raises a fault behind an entry of a mapping, and an entry that a name with an underscore
leads to although an attribute of that name would be hidden. -/
theorem walk_reaches_only_data_of_raising_property :
    let fault := Fault.raised (.other "RuntimeError") "unreadable"
    let contact : Value := .record .object "Contact" [("_id", .integer 7)] ["greet"] [("Broken", fault)]
    let source : Value := .mapping false [(.text "_contact", contact)]
    let look := Resolver.standard.lookup
    Trail ReadsData source ["_contact"] contact ∧ contact.raisedBy? "Broken" = some fault ∧
      (∀ escaping, ¬ Escapes contact "Broken" escaping) ∧
      (∃ cause, (look.walk source ["_contact", "Broken", "size"]).result {} =
        .ok (.error (.unresolved ["_contact", "Broken"] cause))) ∧
      (look.walk source ["_contact"]).result {} = .ok (.ok contact) ∧
      ¬ (∃ found, (look.walk source ["_contact", "_id"]).result {} = .ok (.ok found)) ∧
      ¬ ∃ found, (look.walk source ["_contact", "greet"]).result {} = .ok (.ok found) := by
  intro fault contact source look
  have hfirst : (look.walk source ["_contact"]).result {} = .ok (.ok contact) := rfl
  have htrail : Trail ReadsData source ["_contact"] contact :=
    (((walk_reaches_only_data source ["_contact"] {}).1 contact).mp hfirst).2
  have hraised : contact.raisedBy? "Broken" = some fault := rfl
  have hheld : ∀ escaping, ¬ Escapes contact "Broken" escaping := by
    intro escaping hescapes
    have hfault : (look contact "Broken").result {} = .error escaping :=
      result_standard_eq_error_iff.mpr hescapes
    cases hfault
  have hbroken := ((walk_reaches_only_data source ["_contact", "Broken", "size"] {}).2.2 ["_contact"]
    "Broken" ["size"] contact fault rfl htrail hraised).mpr hheld
  refine ⟨htrail, hraised, hheld, hbroken, hfirst, ?_, ?_⟩
  · rintro ⟨found, hfound⟩
    cases hfound
  · rintro ⟨found, hfound⟩
    cases hfound

/-- A property that raises a fault ends the walk in a fault, and not in failure: if it stands for the class of the
value, if its fault has no text, and if it is an interrupt. -/
theorem walk_raises_at_property :
    let refusal := Fault.raised .wrongType "no"
    let wordless := Fault.wordless .badValue .tooManyDigits
    let interrupt := Fault.raised (.interrupt "KeyboardInterrupt") ""
    let first : Value := .record .object "C" [] [] [("__class__", refusal)]
    let second : Value := .record .object "C" [] [] [("x", wordless), ("y", interrupt)]
    let look := Resolver.standard.lookup
    first.raisedBy? "__class__" = some refusal ∧ second.raisedBy? "x" = some wordless ∧
      second.raisedBy? "y" = some interrupt ∧
      (∀ voice, (look.walk first ["__class__"]).result voice = .error refusal) ∧
      (∀ voice, (look.walk second ["x"]).result voice = .error .tooManyDigits) ∧
      ∀ voice, (look.walk second ["y"]).result voice = .error interrupt := by
  intro refusal wordless interrupt first second look
  exact ⟨rfl, rfl, rfl, fun voice => rfl, fun voice => rfl, fun voice => rfl⟩

end Lookup

end Stencil
