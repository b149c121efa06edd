import Stencil.Proofs.Journal.Outcome
import Stencil.Proofs.Lookup.Contract

/-!
# Walks along paths

A path is walked by looking up its names one after the other, each in the value that was reached before. The
walk is compared with a relation that knows nothing of the loop: a trail is a chain of single steps, one for
each name (`Lookup.Trail`).

* `Lookup.result_walkFrom_eq_found_iff`: a walk finds a value exactly if a trail leads to it.
* `Lookup.result_walkFrom_of_breaksOff`: where a step finds nothing, the walk ends with the reason and the
  names up to that step.
* `Lookup.result_walkFrom_eq_error_iff`: a walk ends in a fault exactly if a trail leads to a step that does.
* `Lookup.walk_follows_trail`: for every lookup that answers among the values it reaches, all of this together,
  and how the walk along a joined path is composed.
-/

namespace Stencil
namespace Lookup

/-! ## Trails -/

/-- A chain of steps from a value along a path, one step for each name, to the value at its end. -/
inductive Trail (reads : Value → String → Value → Prop) : Value → List String → Value → Prop
  | nil (target : Value) : Trail reads target [] target
  | cons {target next found : Value} {name : String} {path : List String} :
      reads target name next → Trail reads next path found →
        Trail reads target (name :: path) found

section Trails

variable {reads : Value → String → Value → Prop}

theorem trail_nil_iff {target found : Value} : Trail reads target [] found ↔ target = found := by
  constructor
  · intro h
    cases h
    rfl
  · rintro rfl
    exact .nil target

theorem trail_cons_iff {target found : Value} {name : String} {path : List String} :
    Trail reads target (name :: path) found ↔
      ∃ next, reads target name next ∧ Trail reads next path found := by
  constructor
  · intro h
    cases h with
    | cons hstep hrest => exact ⟨_, hstep, hrest⟩
  · rintro ⟨next, hstep, hrest⟩
    exact .cons hstep hrest

/-- A trail along a joined path is a trail along the first part and one that goes on from its end. -/
theorem trail_append_iff {target found : Value} {path more : List String} :
    Trail reads target (path ++ more) found ↔
      ∃ middle, Trail reads target path middle ∧ Trail reads middle more found := by
  induction path generalizing target with
  | nil => simp [trail_nil_iff]
  | cons name path ih =>
      simp only [List.cons_append, trail_cons_iff, ih]
      constructor
      · rintro ⟨next, hstep, middle, hfirst, hsecond⟩
        exact ⟨middle, ⟨next, hstep, hfirst⟩, hsecond⟩
      · rintro ⟨middle, ⟨next, hstep, hfirst⟩, hsecond⟩
        exact ⟨next, hstep, middle, hfirst, hsecond⟩

/-- A trail along the first names of a path passes along fewer of them. -/
theorem Trail.take {target found : Value} {path : List String} {count most : Nat}
    (h : Trail reads target (path.take most) found) (hle : count ≤ most) :
    ∃ middle, Trail reads target (path.take count) middle := by
  have hsplit : path.take most = path.take count ++ (path.take most).drop count := by
    calc
      path.take most
          = (path.take most).take count ++ (path.take most).drop count :=
            (List.take_append_drop count _).symm
      _ = path.take count ++ (path.take most).drop count := by
            rw [List.take_take, Nat.min_eq_left hle]
  rw [hsplit, trail_append_iff] at h
  obtain ⟨middle, hmiddle, -⟩ := h
  exact ⟨middle, hmiddle⟩

end Trails

/-! ## Steps of a lookup -/

/-- Looking up the name in the target finds the value. -/
def Finds (look : Lookup) (voice : Voice) (target : Value) (name : String) (value : Value) : Prop :=
  (look target name).result voice = .ok (.ok value)

/-- Looking up a member of one of the values ends in an answer: one of the values again, or a reason why there
is none. -/
def Answers (look : Lookup) (voice : Voice) (inside : Value → Prop) : Prop :=
  ∀ target, inside target → ∀ name, ∃ found, (look target name).result voice = .ok found ∧
    ∀ value, found = .ok value → inside value

/-- The trail along the path breaks off behind its first `depth` names: they lead to a value, in which the
next name is not found, for this cause. -/
structure BreaksOff (look : Lookup) (voice : Voice) (target : Value) (path : List String) (depth : Nat)
    (cause : Absence) : Prop where
  lt_length : depth < path.length
  stops : ∃ reached, Trail (look.Finds voice) target (path.take depth) reached ∧
    (look reached path[depth]).result voice = .ok (.error cause)

section Walks

variable {look : Lookup} {voice : Voice}

theorem Finds.unique {target first second : Value} {name : String}
    (hfirst : look.Finds voice target name first) (hsecond : look.Finds voice target name second) :
    first = second := by
  unfold Finds at hfirst hsecond
  rw [hfirst] at hsecond
  cases hsecond
  rfl

/-- Every step finds one value only, and so does every trail. -/
theorem Trail.unique {target found other : Value} {path : List String}
    (hfound : Trail (look.Finds voice) target path found)
    (hother : Trail (look.Finds voice) target path other) : found = other := by
  induction hfound with
  | nil target => exact trail_nil_iff.mp hother
  | cons hstep _ ih =>
      obtain ⟨next, hnext, hrest⟩ := trail_cons_iff.mp hother
      rw [hnext.unique hstep] at hrest
      exact ih hrest

theorem result_walkFrom_cons_of_found (walked : List String) {current next : Value} {name : String}
    (h : look.Finds voice current name next) (path : List String) :
    (look.walkFrom walked current (name :: path)).result voice =
      (look.walkFrom (walked ++ [name]) next path).result voice := by
  unfold Finds at h
  rw [walkFrom, Noted.result_bind, h]
  rfl

theorem result_walkFrom_cons_of_absent (walked : List String) {current : Value} {name : String}
    {cause : Absence} (h : (look current name).result voice = .ok (.error cause))
    (path : List String) :
    (look.walkFrom walked current (name :: path)).result voice =
      .ok (.error (.unresolved (walked ++ [name]) cause)) := by
  rw [walkFrom, Noted.result_bind, h]
  rfl

/-- A walk finds a value exactly if a trail leads to it. -/
theorem result_walkFrom_eq_found_iff (walked : List String) {current found : Value}
    {path : List String} :
    (look.walkFrom walked current path).result voice = .ok (.ok found) ↔
      Trail (look.Finds voice) current path found := by
  induction path generalizing walked current with
  | nil =>
      rw [trail_nil_iff, walkFrom, Noted.result_pure]
      simp
  | cons name path ih =>
      rw [trail_cons_iff]
      constructor
      · intro h
        obtain ⟨answer, hanswer, hrest⟩ := Noted.exists_result_of_bind h
        cases answer with
        | error cause => cases hrest
        | ok next => exact ⟨next, hanswer, (ih (walked ++ [name])).mp hrest⟩
      · rintro ⟨next, hstep, hrest⟩
        rw [result_walkFrom_cons_of_found walked hstep]
        exact (ih (walked ++ [name])).mpr hrest

/-- A walk ends in a fault exactly if a trail leads to a value in which looking up the next name does. -/
theorem result_walkFrom_eq_error_iff (walked : List String) {current : Value} {path : List String}
    {fault : Fault} :
    (look.walkFrom walked current path).result voice = .error fault ↔
      ∃ before name behind reached, path = before ++ name :: behind ∧
        Trail (look.Finds voice) current before reached ∧
        (look reached name).result voice = .error fault := by
  induction path generalizing walked current with
  | nil =>
      rw [walkFrom, Noted.result_pure]
      simp
  | cons name path ih =>
      constructor
      · intro h
        rw [walkFrom, Noted.result_bind] at h
        rcases hanswer : (look current name).result voice with other | cause | next
        · rw [hanswer, Noted.error_bind] at h
          cases h
          exact ⟨[], name, path, current, rfl, .nil current, hanswer⟩
        · rw [hanswer] at h
          cases h
        · rw [hanswer, Noted.ok_bind] at h
          obtain ⟨before, last, behind, reached, rfl, htrail, hfault⟩ := (ih (walked ++ [name])).mp h
          exact ⟨name :: before, last, behind, reached, rfl, .cons hanswer htrail, hfault⟩
      · rintro ⟨before, last, behind, reached, hpath, htrail, hfault⟩
        cases before with
        | nil =>
            cases hpath
            obtain rfl := trail_nil_iff.mp htrail
            rw [walkFrom, Noted.result_bind, hfault, Noted.error_bind]
        | cons first before =>
            cases hpath
            obtain ⟨next, hstep, hrest⟩ := trail_cons_iff.mp htrail
            rw [result_walkFrom_cons_of_found walked hstep]
            exact (ih (walked ++ [name])).mpr ⟨before, last, behind, reached, rfl, hrest, hfault⟩

/-- Where the trail breaks off, the walk ends, with the cause and the names up to the one that is not found. -/
theorem result_walkFrom_of_breaksOff (walked : List String) {current : Value} {path : List String}
    {depth : Nat} {cause : Absence} (h : BreaksOff look voice current path depth cause) :
    (look.walkFrom walked current path).result voice =
      .ok (.error (.unresolved (walked ++ path.take (depth + 1)) cause)) := by
  obtain ⟨hdepth, reached, htrail, hcause⟩ := h
  induction path generalizing walked current depth with
  | nil => contradiction
  | cons name path ih =>
      cases depth with
      | zero =>
          obtain rfl := trail_nil_iff.mp htrail
          exact result_walkFrom_cons_of_absent walked hcause path
      | succ depth =>
          obtain ⟨next, hstep, hrest⟩ := trail_cons_iff.mp htrail
          rw [result_walkFrom_cons_of_found walked hstep,
            ih (walked ++ [name]) (Nat.lt_of_succ_lt_succ hdepth) hrest hcause]
          simp

/-- If every name is answered, then a trail leads to the end of the path or breaks off on the way. -/
theorem exists_trail_or_breaksOff {inside : Value → Prop} (hanswers : look.Answers voice inside)
    {target : Value} (htarget : inside target) (path : List String) :
    (∃ found, Trail (look.Finds voice) target path found) ∨
      ∃ depth cause, BreaksOff look voice target path depth cause := by
  induction path generalizing target with
  | nil => exact .inl ⟨target, .nil target⟩
  | cons name path ih =>
      obtain ⟨answer, hanswer, hinside⟩ := hanswers target htarget name
      cases answer with
      | error cause => exact .inr ⟨0, cause, Nat.zero_lt_succ _, target, .nil target, hanswer⟩
      | ok next =>
          rcases ih (hinside next rfl) with ⟨found, hfound⟩ | ⟨depth, cause, hdepth, reached, htrail, hcause⟩
          · exact .inl ⟨found, .cons hanswer hfound⟩
          · refine .inr ⟨depth + 1, cause, Nat.succ_lt_succ hdepth, reached, ?_, hcause⟩
            exact .cons hanswer htrail

/-- Of the first names of a path, as many lead to a value as stand before the place where the trail breaks
off, and no more. -/
theorem BreaksOff.exists_trail_take_iff {target : Value} {path : List String} {depth : Nat}
    {cause : Absence} (h : BreaksOff look voice target path depth cause) (count : Nat) :
    (∃ found, Trail (look.Finds voice) target (path.take count) found) ↔ count ≤ depth := by
  obtain ⟨hdepth, reached, htrail, hcause⟩ := h
  constructor
  · rintro ⟨found, hfound⟩
    refine Nat.le_of_not_lt fun hmore => ?_
    -- a trail along more names would pass the place where the trail breaks off
    obtain ⟨beyond, hbeyond⟩ := hfound.take (Nat.succ_le_of_lt hmore)
    rw [List.take_succ_eq_append_getElem hdepth, trail_append_iff] at hbeyond
    obtain ⟨middle, hmiddle, hrest⟩ := hbeyond
    obtain ⟨next, hnext, -⟩ := trail_cons_iff.mp hrest
    rw [hmiddle.unique htrail, Finds, hcause] at hnext
    cases hnext
  · exact fun hle => htrail.take hle

theorem result_walk_eq_found_iff {target found : Value} {path : List String} (hpath : path ≠ []) :
    (look.walk target path).result voice = .ok (.ok found) ↔
      Trail (look.Finds voice) target path found := by
  rw [walk_of_ne_nil target hpath, result_walkFrom_eq_found_iff]

end Walks

/-! ## Lookups that answer -/

/-- For every lookup that answers among some values, which may be all, and every target among them: a walk along
a path that is not empty finds a value exactly if there is a trail to it, a chain of values that starts at the
target and in which each name of the path is found with the next value. Otherwise the walk ends with a reason,
which shows the shortest of the first parts of the path that lead nowhere, its names joined by points and in
quotation marks, and behind it the reason of the last step. A walk along two paths that are joined finds a value
exactly if the walk along the first finds one from which the walk along the second finds that value. -/
theorem walk_follows_trail {look : Lookup} {voice : Voice} {inside : Value → Prop}
    (hanswers : look.Answers voice inside) :
    (∀ (target : Value) (path : List String), inside target → path ≠ [] →
      (∀ found, (look.walk target path).result voice = .ok (.ok found) ↔
        Trail (look.Finds voice) target path found) ∧
      ((¬ ∃ found, Trail (look.Finds voice) target path found) →
        ∃ depth cause absence, BreaksOff look voice target path depth cause ∧
          (∀ count, (∃ found, Trail (look.Finds voice) target (path.take count) found) ↔
            count ≤ depth) ∧
          (look.walk target path).result voice = .ok (.error absence) ∧
          absence.text = "Unresolved path " ++ Text.quoted (".".intercalate (path.take (depth + 1))) ++
            ": " ++ cause.text)) ∧
    ∀ (target found : Value) (path more : List String), path ≠ [] → more ≠ [] →
      ((look.walk target (path ++ more)).result voice = .ok (.ok found) ↔
        ∃ middle, (look.walk target path).result voice = .ok (.ok middle) ∧
          (look.walk middle more).result voice = .ok (.ok found)) := by
  constructor
  · intro target path htarget hpath
    refine ⟨fun found => result_walk_eq_found_iff hpath, ?_⟩
    intro hnone
    rcases exists_trail_or_breaksOff hanswers htarget path with hfound | ⟨depth, cause, hbreaks⟩
    · exact absurd hfound hnone
    · refine ⟨depth, cause, .unresolved (path.take (depth + 1)) cause, hbreaks,
        hbreaks.exists_trail_take_iff, ?_, rfl⟩
      rw [walk_of_ne_nil target hpath, result_walkFrom_of_breaksOff [] hbreaks]
      rfl
  · intro target found path more hpath hmore
    have hjoined : path ++ more ≠ [] := List.append_ne_nil_of_left_ne_nil hpath more
    simp only [result_walk_eq_found_iff hpath, result_walk_eq_found_iff hmore,
      result_walk_eq_found_iff hjoined, trail_append_iff]

/-- The standard resolver reads a mapping by its keys, for a mapping has no attributes of its own. -/
theorem result_standard_mapping (voice : Voice) (readOnly : Bool) (pairs : List (Value × Value)) (name : String) :
    (Resolver.standard.lookup (.mapping readOnly pairs) name).result voice =
      .ok (match Entries.find? pairs name with
        | some value => .ok value
        | none => missing (.mapping readOnly pairs) name) := by
  have hattributes : attributes (.mapping readOnly pairs) name = pure (missing (.mapping readOnly pairs) name) := by
    rw [attributes]
    split
    · rfl
    · rfl
  rw [Resolver.standard, Resolver.lookup_chain_of_ne_nothing (by simp), Resolver.lookupFirst,
    Resolver.lookupFirst, Resolver.lookupFirst, Resolver.lookup, Resolver.lookup, entries, hattributes]
  cases Entries.find? pairs name with
  | some value => rfl
  | none => rfl

/-- A member that is there and holds nothing, and a name behind it: the reason shows the path up to that name,
and not the rest of it. The standard resolver answers in the values that can be reached. -/
theorem walk_follows_trail_of_member_of_nothing :
    let look := Resolver.standard.lookup
    let shop : Value := .mapping false [(.text "owner", .nothing)]
    let source : Value := .mapping false [(.text "shop", shop)]
    let inside := fun value => value = source ∨ value = shop ∨ value = .nothing
    let path := ["shop", "owner", "name", "size"]
    look.Answers {} inside ∧ inside source ∧ path ≠ [] ∧
      (¬ ∃ found, Trail (look.Finds {}) source path found) ∧
      (∃ absence, (look.walk source path).result {} = .ok (.error absence) ∧
        absence.text = "Unresolved path 'shop.owner.name': Cannot read 'name' from None") ∧
      ((look.walk source (["shop"] ++ ["owner"])).result {} = .ok (.ok .nothing) ↔
        ∃ middle, (look.walk source ["shop"]).result {} = .ok (.ok middle) ∧
          (look.walk middle ["owner"]).result {} = .ok (.ok .nothing)) := by
  intro look shop source inside path
  have hanswers : look.Answers {} inside := by
    rintro target (rfl | rfl | rfl) name
    · refine ⟨_, result_standard_mapping {} false _ name, ?_⟩
      by_cases hname : "shop" = name
      · simp [Entries.find?, hname, inside]
      · simp [Entries.find?, hname, missing]
    · refine ⟨_, result_standard_mapping {} false _ name, ?_⟩
      by_cases hname : "owner" = name
      · simp [Entries.find?, hname, inside]
      · simp [Entries.find?, hname, missing]
    · refine ⟨_, congrArg (Noted.result · {}) (Resolver.lookup_chain_nothing _ name), ?_⟩
      intro value hvalue
      cases hvalue
  have hsource : inside source := .inl rfl
  have hpath : path ≠ [] := List.cons_ne_nil _ _
  have hwalk : (look.walk source path).result {} =
      .ok (.error (.unresolved ["shop", "owner", "name"] (.ofNothing "name"))) := rfl
  obtain ⟨hpaths, hjoined⟩ := walk_follows_trail hanswers
  have hnone : ¬ ∃ found, Trail (look.Finds {}) source path found := by
    rintro ⟨found, hfound⟩
    have hfinds := ((hpaths source path hsource hpath).1 found).mpr hfound
    rw [hwalk] at hfinds
    cases hfinds
  obtain ⟨depth, cause, absence, -, -, habsence, -⟩ := (hpaths source path hsource hpath).2 hnone
  have hreason : absence = .unresolved ["shop", "owner", "name"] (.ofNothing "name") := by
    rw [hwalk] at habsence
    cases habsence
    rfl
  refine ⟨hanswers, hsource, hpath, hnone, ⟨absence, habsence, ?_⟩,
    hjoined source .nothing ["shop"] ["owner"] (List.cons_ne_nil _ _) (List.cons_ne_nil _ _)⟩
  have hpathQuoted : Text.quoted "shop.owner.name" = "'shop.owner.name'" :=
    Text.quoted_of_isVerbatim (by decide)
  have hnameQuoted : Text.quoted "name" = "'name'" := Text.quoted_of_isVerbatim (by decide)
  calc
    absence.text
        = "Unresolved path " ++ Text.quoted "shop.owner.name" ++ ": " ++
            ("Cannot read " ++ Text.quoted "name" ++ " from None") := by
          rw [hreason]
          rfl
    _ = "Unresolved path 'shop.owner.name': Cannot read 'name' from None" := by
          rw [hpathQuoted, hnameQuoted]
          rfl

end Lookup

end Stencil
