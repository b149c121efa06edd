import Stencil.Proofs.Journal.Warnings
import Stencil.Proofs.Lookup.Contract
import Stencil.Proofs.Render.Blocks
import Stencil.Proofs.Template.Scopes

/-!
# The warnings of rendering

Rendering tolerates three things and warns of each where it meets it: a closing segment where no scope is
open, a scope on a member that is missing, and a value token whose path leads nowhere. At the end it warns
once more if scopes are still open. What it warns of at a place depends on the names of the scopes that are
open there, and on nothing else of the segments before it (`Lookup.warningAt`).

* `Lookup.warnings_renderIn_cons`: the warnings of rendering a segment and of what follows it.
* `Lookup.warnings_render`: all the warnings, in the order of the segments, and their numbers.
-/

namespace Stencil

/-- Showing a value warns of nothing. -/
theorem Value.warnings_showWith (value : Value) (format : Option String) (voice : Voice) :
    (value.showWith format).warnings voice = [] := by
  unfold Value.showWith
  cases format with
  | none => rfl
  | some format =>
      dsimp only
      split
      · rfl
      · split
        · rfl
        · split
          · rfl
          · split
            · refine Noted.warnings_bind_eq_nil rfl fun reason => ?_
              exact Noted.warnings_bind_eq_nil (Noted.warnings_note_of_debug rfl voice) fun _ => rfl
            · rfl

namespace Lookup

open Segment (places openBehind)
open Block (contextOf)

/-! ## What is met at a place -/

section Places

variable (look : Lookup) (voice : Voice) (source : Value)

/-- The context inside open scopes, of which the innermost is the first: a member of a member of the data
source, and nothing where a member is missing. -/
def contextAt : List String → Value
  | [] => source
  | name :: outer => (contextOf look voice (contextAt outer) name).toOption.getD .nothing

/-- The contexts around open scopes, the innermost first. -/
def contextsAround : List String → List Value
  | [] => []
  | _ :: outer => look.contextAt voice source outer :: contextsAround outer

/-- What is looked up at a place: the member that a scope opens on, or the end of the path of a value. -/
def searchAt (place : List String × Segment) : Option (Noted Found) :=
  let context := look.contextAt voice source place.1
  match place.2 with
  | .scopeOpen name => some (look context name)
  | .value path _ => some (look.walk context path)
  | .literal _ | .scopeClose => none

/-- Why nothing was found, if that is how looking something up ended. -/
def absence? : Except Fault Found → Option Absence
  | .ok (.error absence) => some absence
  | _ => none

/-- The warnings that looking up utters by itself at a place. -/
def ownWarningsAt (place : List String × Segment) : List Note :=
  (look.searchAt voice source place).elim [] fun search => search.warnings voice

/-- Why nothing is found at a place, if something is looked up there in vain. -/
def absenceAt (place : List String × Segment) : Option Absence :=
  (look.searchAt voice source place).bind fun search => absence? (search.result voice)

/-- What rendering warns of at a place: a member that is missing, a path that leads nowhere, or a closing
segment where no scope is open. -/
def warningAt (place : List String × Segment) : Option Note :=
  match place.2 with
  | .literal _ => none
  | .scopeOpen name => (look.absenceAt voice source place).map (.missingScope name)
  | .scopeClose => if place.1 = [] then some .strayClose else none
  | .value path _ => (look.absenceAt voice source place).map (.emptyToken path)

end Places

section Steps

variable {look : Lookup} {voice : Voice} {source : Value}

theorem length_contextsAround (names : List String) :
    (look.contextsAround voice source names).length = names.length := by
  induction names with
  | nil => rfl
  | cons name names ih => rw [contextsAround, List.length_cons, ih, List.length_cons]

/-- A computation that looks something up, and warns if nothing is found. -/
theorem warnings_search {α : Type} {search : Noted Found} {next : Found → Noted α}
    {missing : Absence → Note} (hmember : ∀ member, (next (.ok member)).warnings voice = [])
    (habsence : ∀ absence, (next (.error absence)).warnings voice = [missing absence]) {a : α}
    (h : (search >>= next).result voice = .ok a) :
    (∃ found, search.result voice = .ok found) ∧
      (search >>= next).warnings voice =
        search.warnings voice ++ ((absence? (search.result voice)).map missing).toList := by
  obtain ⟨found, hfound, _⟩ := Noted.exists_result_of_bind h
  refine ⟨⟨found, hfound⟩, ?_⟩
  rw [Noted.warnings_bind_of_ok hfound, hfound]
  cases found with
  | ok member =>
      rw [hmember]
      rfl
  | error absence =>
      rw [habsence]
      rfl

/-- A scope that is entered is looked up without a fault, and warns of a missing member. -/
theorem warnings_enter (hvoice : voice.uncomplaining = false) {context inner : Value} {name : String}
    (h : (look.enter context name).result voice = .ok inner) :
    (∃ found, (look context name).result voice = .ok found) ∧
      (look.enter context name).warnings voice = (look context name).warnings voice ++
        ((absence? ((look context name).result voice)).map (Note.missingScope name)).toList := by
  unfold enter at h ⊢
  refine warnings_search ?_ ?_ h
  · intro member
    rfl
  · intro absence
    exact Noted.warnings_note_bind hvoice rfl _

/-- A value token that is shown is walked to without a fault, and warns of a path that leads nowhere. -/
theorem warnings_showPath (hvoice : voice.uncomplaining = false) {context : Value}
    {path : List String} {format : Option String} {text : String}
    (h : (look.showPath context path format).result voice = .ok text) :
    (∃ found, (look.walk context path).result voice = .ok found) ∧
      (look.showPath context path format).warnings voice = (look.walk context path).warnings voice ++
        ((absence? ((look.walk context path).result voice)).map (Note.emptyToken path)).toList := by
  unfold showPath at h ⊢
  refine warnings_search ?_ ?_ h
  · intro member
    exact Value.warnings_showWith member format voice
  · intro absence
    exact Noted.warnings_note_bind hvoice rfl _

/-- One step of rendering. If rendering from a place on ends in texts, nothing that is looked up there ends in
a fault, and the warnings are those of the lookup, that of the place, and those of rendering what follows in
the contexts behind the place. -/
theorem warnings_renderIn_cons (hvoice : voice.uncomplaining = false) {names : List String}
    {segment : Segment} {segments : List Segment} {texts : List String}
    (h : (look.renderIn (look.contextAt voice source names) (look.contextsAround voice source names)
      (segment :: segments)).result voice = .ok texts) :
    (∀ search ∈ look.searchAt voice source (names, segment), ∃ found, search.result voice = .ok found) ∧
      ∃ rest, (look.renderIn (look.contextAt voice source (openBehind names segment))
          (look.contextsAround voice source (openBehind names segment)) segments).result voice = .ok rest ∧
        (look.renderIn (look.contextAt voice source names) (look.contextsAround voice source names)
            (segment :: segments)).warnings voice =
          look.ownWarningsAt voice source (names, segment) ++
            (look.warningAt voice source (names, segment)).toList ++
            (look.renderIn (look.contextAt voice source (openBehind names segment))
              (look.contextsAround voice source (openBehind names segment)) segments).warnings voice := by
  cases segment with
  | literal text =>
      rw [renderIn] at h ⊢
      obtain ⟨rest, hrest, _⟩ := Noted.exists_result_of_bind h
      refine ⟨?_, rest, hrest, ?_⟩
      · intro search hsearch
        cases hsearch
      · rw [Noted.warnings_bind_of_ok hrest, Noted.warnings_pure, List.append_nil]
        rfl
  | value path format =>
      rw [renderIn] at h ⊢
      obtain ⟨text, htext, hmore⟩ := Noted.exists_result_of_bind h
      obtain ⟨rest, hrest, _⟩ := Noted.exists_result_of_bind hmore
      obtain ⟨hfound, hwarnings⟩ := warnings_showPath hvoice htext
      refine ⟨?_, rest, hrest, ?_⟩
      · intro search hsearch
        cases hsearch
        exact hfound
      · rw [Noted.warnings_bind_of_ok htext, Noted.warnings_bind_of_ok hrest, Noted.warnings_pure,
          List.append_nil, hwarnings]
        rfl
  | scopeOpen name =>
      rw [renderIn] at h ⊢
      obtain ⟨inner, hinner, hrest⟩ := Noted.exists_result_of_bind h
      obtain ⟨hfound, hwarnings⟩ := warnings_enter hvoice hinner
      have hcontext : inner = look.contextAt voice source (name :: names) := by
        rw [result_enter] at hinner
        rw [contextAt, hinner]
        rfl
      rw [Noted.warnings_bind_of_ok hinner, hwarnings]
      rw [hcontext] at hrest ⊢
      refine ⟨?_, texts, hrest, rfl⟩
      intro search hsearch
      cases hsearch
      exact hfound
  | scopeClose =>
      cases names with
      | nil =>
          rw [contextsAround, renderIn] at h ⊢
          obtain ⟨_, _, hrest⟩ := Noted.exists_result_of_bind h
          refine ⟨?_, texts, hrest, Noted.warnings_note_bind hvoice rfl _⟩
          intro search hsearch
          cases hsearch
      | cons name names =>
          rw [contextsAround, renderIn] at h ⊢
          refine ⟨?_, texts, h, rfl⟩
          intro search hsearch
          cases hsearch

/-- At the end rendering warns of the scopes that are still open, if there are any. -/
theorem warnings_renderIn_nil (hvoice : voice.uncomplaining = false) (names : List String) :
    (look.renderIn (look.contextAt voice source names) (look.contextsAround voice source names)
        []).warnings voice = if 0 < names.length then [.openScopes names.length] else [] := by
  rw [renderIn]
  cases names with
  | nil => rfl
  | cons name names =>
      have hlength : (look.contextsAround voice source (name :: names)).length =
          (name :: names).length := length_contextsAround _
      rw [hlength, if_pos (by simp [contextsAround]), if_pos (by simp)]
      exact Noted.warnings_note_bind hvoice rfl _

/-- A whole run of rendering: nothing that is looked up on the way ends in a fault, and the warnings are those
of all places, in order, and the one of the scopes that are open at the end. -/
theorem warnings_renderIn (hvoice : voice.uncomplaining = false) (names : List String)
    {segments : List Segment} {texts : List String}
    (h : (look.renderIn (look.contextAt voice source names) (look.contextsAround voice source names)
      segments).result voice = .ok texts) :
    (∀ place ∈ places names segments, ∀ search ∈ look.searchAt voice source place,
        ∃ found, search.result voice = .ok found) ∧
      (look.renderIn (look.contextAt voice source names) (look.contextsAround voice source names)
          segments).warnings voice =
        (places names segments).flatMap (fun place => look.ownWarningsAt voice source place ++
            (look.warningAt voice source place).toList) ++
          (if 0 < (segments.foldl openBehind names).length
            then [.openScopes (segments.foldl openBehind names).length] else []) := by
  -- the names of the open scopes go along with the segments, since they fix the contexts
  induction segments generalizing names texts with
  | nil =>
      refine ⟨?_, warnings_renderIn_nil hvoice names⟩
      intro place hplace
      cases hplace
  | cons segment segments ih =>
      obtain ⟨hfound, rest, hrest, hwarnings⟩ := warnings_renderIn_cons hvoice h
      obtain ⟨hothers, hmore⟩ := ih (openBehind names segment) hrest
      refine ⟨?_, ?_⟩
      · intro place hplace
        rw [places, List.mem_cons] at hplace
        rcases hplace with rfl | hplace
        · exact hfound
        · exact hothers place hplace
      · rw [hwarnings, hmore, places, List.flatMap_cons, List.append_assoc, List.foldl_cons]
        simp

/-- Where something is looked up and rendering does not warn, it is found. -/
theorem exists_of_warningAt_eq_none {place : List String × Segment} {search : Noted Found}
    {found : Found} (hnone : look.warningAt voice source place = none)
    (hsearch : look.searchAt voice source place = some search)
    (hfound : search.result voice = .ok found) : ∃ member, found = .ok member := by
  have habsence : look.absenceAt voice source place = absence? (.ok found) := by
    rw [absenceAt, hsearch, Option.bind_some, hfound]
  cases found with
  | ok member => exact ⟨member, rfl⟩
  | error absence =>
      obtain ⟨names, segment⟩ := place
      cases segment with
      | literal text => cases hsearch
      | value path format =>
          rw [warningAt, habsence] at hnone
          cases hnone
      | scopeOpen name =>
          rw [warningAt, habsence] at hnone
          cases hnone
      | scopeClose => cases hsearch

/-- Among the warnings, those of strays are as many as the strays. -/
theorem count_strayClose_warningAt (places : List (List String × Segment)) :
    (places.filterMap (look.warningAt voice source)).count .strayClose = places.countP Segment.isStray := by
  rw [List.count_filterMap]
  refine List.countP_congr ?_
  rintro ⟨names, segment⟩ _
  cases segment with
  | literal text => simp [warningAt, Segment.isStray, Segment.isScopeClose]
  | value path format => simp [warningAt, Segment.isStray, Segment.isScopeClose]
  | scopeOpen name => simp [warningAt, Segment.isStray, Segment.isScopeClose]
  | scopeClose => simp [warningAt, Segment.isStray, Segment.isScopeClose]

end Steps

/-! ## Lookups that warn of nothing -/

/-- The lookup utters no warnings by itself. -/
def WarnsOfNothing (look : Lookup) : Prop :=
  ∀ (target : Value) (name : String) (voice : Voice), (look target name).warnings voice = []

/-- Warning of nothing is a contract among all values. -/
theorem contract_warnsOfNothing (voice : Voice) :
    Contract (fun _ => True) fun x => x.warnings voice = [] where
  absent _ := rfl
  found _ := rfl
  bind := by
    intro first rest hfirst habsent hfound
    refine Noted.warnings_bind_eq_nil hfirst ?_
    intro found
    cases found with
    | error absence => exact habsent absence
    | ok value => exact hfound value trivial

theorem WarnsOfNothing.keeps {look : Lookup} (h : look.WarnsOfNothing) (voice : Voice) :
    look.Keeps (fun _ => True) fun x => x.warnings voice = [] :=
  fun target name _ => h target name voice

theorem WarnsOfNothing.walk {look : Lookup} (h : look.WarnsOfNothing) (target : Value)
    (path : List String) (voice : Voice) : (look.walk target path).warnings voice = [] :=
  (h.keeps voice).walk (contract_warnsOfNothing voice) trivial path

theorem WarnsOfNothing.ownWarningsAt {look : Lookup} (h : look.WarnsOfNothing) (voice : Voice)
    (source : Value) (place : List String × Segment) :
    look.ownWarningsAt voice source place = [] := by
  obtain ⟨names, segment⟩ := place
  cases segment with
  | literal text => rfl
  | value path format => exact h.walk _ path voice
  | scopeOpen name => exact h _ name voice
  | scopeClose => rfl

theorem warnsOfNothing_entries : entries.WarnsOfNothing := by
  intro target name voice
  unfold entries
  split
  · rfl
  · split
    · rfl
    · rfl

theorem warnsOfNothing_attributes : attributes.WarnsOfNothing := by
  intro target name voice
  unfold attributes
  split
  · rfl
  · split
    · rfl
    · refine Noted.warnings_bind_eq_nil rfl fun reason => ?_
      exact Noted.warnings_bind_eq_nil (Noted.warnings_note_of_debug rfl voice) fun _ => rfl
    · split
      · rfl
      · rfl

end Lookup

namespace Resolver

/-- The resolvers of the library trace what they do, and warn of nothing. -/
theorem warnsOfNothing (resolver : Resolver) : resolver.lookup.WarnsOfNothing :=
  fun target name voice =>
    keeps_of_leaves (Lookup.contract_warnsOfNothing voice) (Lookup.warnsOfNothing_entries.keeps voice)
      (Lookup.warnsOfNothing_attributes.keeps voice) (fun _ => rfl) resolver target name trivial

end Resolver

/-! ## The warnings of a template -/

namespace Lookup

open Segment (places openScopes strays leftOpen opens closes IsBalanced)

/-- The warnings of rendering are those of all places and the one about the scopes that stay open; nothing that is
looked up at a place ends in a fault. -/
theorem warnings_render_places {look : Lookup} {segments : List Segment} {source : Value} {voice : Voice}
    (hvoice : voice.uncomplaining = false) {text : String}
    (htext : (look.render segments source).result voice = .ok text) :
    (∀ place ∈ places [] segments, ∀ search ∈ look.searchAt voice source place,
        ∃ found, search.result voice = .ok found) ∧
      (look.render segments source).warnings voice =
        (places [] segments).flatMap (fun place => look.ownWarningsAt voice source place ++
            (look.warningAt voice source place).toList) ++
          (if 0 < leftOpen segments then [.openScopes (leftOpen segments)] else []) := by
  obtain ⟨texts, htexts, _⟩ := Noted.exists_result_of_bind htext
  obtain ⟨hfound, hrun⟩ := warnings_renderIn hvoice [] htexts
  have hjoin : (look.render segments source).warnings voice =
      (look.renderIn source [] segments).warnings voice := by
    refine (Noted.warnings_bind_of_ok htexts _).trans ?_
    rw [Noted.warnings_pure, List.append_nil]
  refine ⟨hfound, ?_⟩
  rw [hjoin, ← Segment.length_openScopes]
  exact hrun

/-- For all segments, every way to look up members and every data source: if rendering ends in a text, and the
voice complains, the warnings are, in the order of the segments, one for every closing segment where no scope is
open, one for every scope on a member that is missing, and one for every path that leads nowhere; and at the
end one more if scopes are still open. What the lookup warns of by itself stands in front of the warning of
its place. The closing segments that close nothing, and the scopes that stay open, are as many as the numbers of
opening and closing segments in the prefixes say. Without any warning the scopes are balanced, and something is
found for all scopes and all paths. -/
theorem warnings_render (look : Lookup) (segments : List Segment) (source : Value) {voice : Voice}
    (hvoice : voice.uncomplaining = false) {text : String}
    (htext : (look.render segments source).result voice = .ok text) :
    let warnings := (look.render segments source).warnings voice
    let met := (places [] segments).filterMap (look.warningAt voice source)
    let last : List Note := if 0 < leftOpen segments then [.openScopes (leftOpen segments)] else []
    warnings = (places [] segments).flatMap (fun place => look.ownWarningsAt voice source place ++
        (look.warningAt voice source place).toList) ++ last ∧
      (look.WarnsOfNothing → warnings = met ++ last) ∧
      met.count .strayClose = strays segments ∧
      (openScopes segments).length = leftOpen segments ∧
      (leftOpen segments : Int) = opens segments - closes segments + strays segments ∧
      (warnings = [] → IsBalanced segments ∧
        ∀ before segment after, segments = before ++ segment :: after →
          ∀ search ∈ look.searchAt voice source (openScopes before, segment),
            ∃ member, search.result voice = .ok (.ok member)) := by
  intro warnings met last
  obtain ⟨hfound, hrun⟩ := warnings_render_places hvoice htext
  have hall : warnings = (places [] segments).flatMap (fun place =>
      look.ownWarningsAt voice source place ++ (look.warningAt voice source place).toList) ++ last := hrun
  have hstrays : met.count .strayClose = strays segments := by
    rw [count_strayClose_warningAt, Segment.countP_isStray_places]
    rfl
  refine ⟨hall, ?_, hstrays, Segment.length_openScopes segments, Segment.leftOpen_eq segments, ?_⟩
  · intro hlook
    rw [hall]
    simp only [hlook.ownWarningsAt, List.nil_append, met, List.filterMap_eq_flatMap_toList]
  · intro hnone
    rw [hall, List.append_eq_nil_iff, List.flatMap_eq_nil_iff] at hnone
    obtain ⟨hplaces, hlast⟩ := hnone
    have hmet : ∀ place ∈ places [] segments, look.warningAt voice source place = none := by
      intro place hplace
      have h := List.append_eq_nil_iff.mp (hplaces place hplace)
      exact Option.toList_eq_nil_iff.mp h.2
    refine ⟨Segment.isBalanced_iff.mpr ⟨?_, ?_⟩, ?_⟩
    · have hnil : met = [] := List.filterMap_eq_nil_iff.mpr hmet
      rw [← hstrays, hnil, List.count_nil]
    · by_contra hopen
      have hpos : 0 < leftOpen segments := Nat.pos_of_ne_zero hopen
      simp only [last, if_pos hpos] at hlast
      cases hlast
    · intro before segment after hsplit search hsearch
      have hplace : (openScopes before, segment) ∈ places [] segments :=
        Segment.mem_places_iff.mpr ⟨before, after, hsplit, rfl⟩
      obtain ⟨found, hresult⟩ := hfound _ hplace search hsearch
      obtain ⟨member, rfl⟩ := exists_of_warningAt_eq_none (hmet _ hplace) hsearch hresult
      exact ⟨member, hresult⟩

/-- A closing segment that closes nothing, a scope on a missing member with a value in it that is read from
nothing, and a scope that stays open. -/
theorem warnings_render_of_missing_scope :
    let source : Value := .mapping false [(.text "shop", .mapping false [(.text "name", .text "Ada")])]
    let segments : List Segment := [.scopeClose, .scopeOpen "shop", .value ["name"] none,
      .scopeOpen "owner", .value ["name"] none, .scopeClose]
    let rendered := Resolver.standard.lookup.render segments source
    ({} : Voice).uncomplaining = false ∧ rendered.result {} = .ok "Ada" ∧
      rendered.warnings {} = [.strayClose, .missingScope "owner" (.noMember "dict" "owner"),
        .emptyToken ["name"] (.unresolved ["name"] (.ofNothing "name")), .openScopes 1] ∧
      strays segments = 1 ∧ leftOpen segments = 1 := by
  intro source segments rendered
  have htext : rendered.result {} = .ok "Ada" := rfl
  have hvoice : ({} : Voice).uncomplaining = false := rfl
  have hwarnings := (warnings_render Resolver.standard.lookup segments source hvoice htext).2.1
  refine ⟨hvoice, htext, ?_, by decide, by decide⟩
  rw [hwarnings (Resolver.warnsOfNothing _)]
  rfl

end Lookup

end Stencil
