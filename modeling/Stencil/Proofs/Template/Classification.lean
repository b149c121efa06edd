import Stencil.Proofs.Template.Printing
import Stencil.Template.Draft

/-!
# What the body of a token is read as

The kinds of tokens are told apart by conditions on the body alone, without the way in which it is read:

* a body opens a scope if it is the keyword, blanks, a name and what cannot go on with the name
  (`OpensScope`, `Grammar.scopeName?_eq_some_iff`);
* a path is the longest part at the front that holds neither a blank nor a quote (`IsLongestFront`), and it is the
  dotted form of its names (`toList_dotted_splitAtPoints`);
* a format is the text between the first two quotes, or from a lone quote to the end (`IsFirstQuoted`,
  `readFormat?_eq_some_iff`).

`Grammar.classify_decides_grammar` puts them together for every grammar and every body. The segments that are built
satisfy the checks that segments from outside have to pass (`Segment.IsValid.toSegment?_draft`).
-/

namespace Stencil

open Text (IsLongestFront isLongestFront_takeWhile head?_dropWhile_eq_some takeWhile_dropWhile_append)

/-- What stands in a text between the first quote and the next one, or the end if there is no other. -/
def IsFirstQuoted (text quoted : List Char) : Prop :=
  ∃ front rest, text = front ++ quoteMark :: (quoted ++ rest) ∧ quoteMark ∉ front ∧
    quoteMark ∉ quoted ∧ ∀ c, rest.head? = some c → c = quoteMark

/-- A body that is a keyword, at least one blank, and a name of at least one character, which ends where the body ends
or at the first character that no name holds. -/
def OpensScope (keyword body name : List Char) : Prop :=
  ∃ blanks rest, body = keyword ++ (blanks ++ (name ++ rest)) ∧
    blanks ≠ [] ∧ (∀ c, c ∈ blanks → Text.isBlank c = true) ∧
    name ≠ [] ∧ (∀ c, c ∈ name → isScopeNameChar c = true) ∧
    ∀ c, rest.head? = some c → isScopeNameChar c = false

/-! ## Scopes -/

theorem isScopeNameChar_of_isBlank {c : Char} (h : Text.isBlank c = true) :
    isScopeNameChar c = false := by
  simp [isScopeNameChar, h]

namespace Grammar

variable {g : Grammar} {body name : List Char}

/-- The name of a scope is found in the bodies that open a scope on it, and in no others. -/
theorem scopeName?_eq_some_iff : g.scopeName? body = some name ↔ OpensScope g.keyword body name := by
  constructor
  · intro h
    rw [scopeName?] at h
    split at h
    · next hstart =>
        obtain ⟨rest, rfl⟩ := List.isPrefixOf_iff_prefix.mp hstart
        rw [List.drop_left] at h
        dsimp only at h
        split at h
        · cases h
        · next hsome =>
            cases h
            rw [Bool.or_eq_true, not_or, List.isEmpty_iff, List.isEmpty_iff] at hsome
            refine ⟨rest.takeWhile Text.isBlank, (Text.dropBlanks rest).dropWhile isScopeNameChar,
              ?_, hsome.1, fun c => List.mem_takeWhile_imp, hsome.2, fun c => List.mem_takeWhile_imp,
              fun c => head?_dropWhile_eq_some⟩
            rw [List.takeWhile_append_dropWhile, Text.dropBlanks, List.takeWhile_append_dropWhile]
    · cases h
  · rintro ⟨blanks, rest, rfl, hblanks, hblank, hname, hchars, hrest⟩
    have hbehind : ∀ c, (name ++ rest).head? = some c → Text.isBlank c = false := by
      intro c hc
      obtain ⟨first, others, rfl⟩ := List.exists_cons_of_ne_nil hname
      cases hc
      cases hblank : Text.isBlank c with
      | false => rfl
      | true =>
          have hname := hchars c List.mem_cons_self
          rw [isScopeNameChar_of_isBlank hblank] at hname
          cases hname
    obtain ⟨htake, hdrop⟩ := takeWhile_dropWhile_append hblank hbehind
    obtain ⟨hfront, _⟩ := takeWhile_dropWhile_append hchars hrest
    simp [scopeName?, Text.dropBlanks, htake, hdrop, hfront, hblanks, hname]

end Grammar

theorem OpensScope.name_ne {keyword body : List Char} {name : String}
    (h : OpensScope keyword body name.toList) : name ≠ "" := by
  obtain ⟨_, _, _, _, _, hname, _⟩ := h
  rwa [ne_eq, String.toList_eq_nil_iff] at hname

/-- A keyword without blanks opens no scope in the body that closes one. -/
theorem OpensScope.not_closes {keyword body name : List Char}
    (hkeyword : ∀ c, c ∈ keyword → Text.isBlank c = false) (h : OpensScope keyword body name) :
    body ≠ '/' :: keyword := by
  rintro rfl
  obtain ⟨blanks, rest, hbody, hblanks, hblank, _⟩ := h
  obtain ⟨c, others, rfl⟩ := List.exists_cons_of_ne_nil hblanks
  -- the blank behind the keyword would have to be the slash or a character of the keyword
  have hmem : c ∈ '/' :: keyword := by
    rw [hbody]
    simp
  have hc : Text.isBlank c = true := hblank c List.mem_cons_self
  rcases List.mem_cons.mp hmem with rfl | hmem
  · exact absurd hc (by decide)
  · rw [hkeyword c hmem] at hc
    cases hc

/-! ## Paths and formats -/

theorem splitAtPoints_ne_nil (text : List Char) : splitAtPoints text ≠ [] := by
  cases text with
  | nil => simp [splitAtPoints]
  | cons c text =>
      rw [splitAtPoints]
      split
      · simp
      · split
        · simp
        · simp

/-- The parts of a text hold no point, and with points between them they are the text again. -/
theorem intercalate_splitAtPoints (text : List Char) :
    ['.'].intercalate (splitAtPoints text) = text ∧ ∀ part, part ∈ splitAtPoints text → '.' ∉ part := by
  induction text with
  | nil => simp [splitAtPoints]
  | cons c text ih =>
      obtain ⟨part, parts, hparts⟩ := List.exists_cons_of_ne_nil (splitAtPoints_ne_nil text)
      rw [hparts] at ih
      obtain ⟨hjoined, hfree⟩ := ih
      by_cases hc : c = '.'
      · subst hc
        rw [splitAtPoints, if_pos rfl, hparts, List.intercalate_cons_cons, hjoined]
        exact ⟨rfl, List.forall_mem_cons.mpr ⟨List.not_mem_nil, hfree⟩⟩
      · rw [splitAtPoints, if_neg hc, hparts]
        obtain ⟨hpart, hrest⟩ := List.forall_mem_cons.mp hfree
        refine ⟨?_, List.forall_mem_cons.mpr ⟨?_, hrest⟩⟩
        · rw [← hjoined]
          cases parts with
          | nil => simp
          | cons next parts => simp
        · rw [List.mem_cons, not_or]
          exact ⟨fun h => hc h.symm, hpart⟩

/-- A path is written as the text whose parts its names are. -/
theorem toList_dotted_splitAtPoints (text : List Char) :
    (Segment.dotted ((splitAtPoints text).map String.ofList)).toList = text := by
  rw [Segment.dotted, String.toList_intercalate, List.map_map]
  have hparts : (splitAtPoints text).map (String.toList ∘ String.ofList) = splitAtPoints text := by
    simp [Function.comp_def]
  rw [hparts]
  exact (intercalate_splitAtPoints text).1

theorem decide_ne_quoteMark_of_not_mem {text : List Char} (h : quoteMark ∉ text) :
    ∀ c, c ∈ text → decide (c ≠ quoteMark) = true := by
  intro c hc
  refine decide_eq_true ?_
  rintro rfl
  exact h hc

/-- The format that is read is the text in the first quotes. -/
theorem readFormat?_eq_some_iff {text format : List Char} :
    readFormat? text = some format ↔ IsFirstQuoted text format := by
  constructor
  · intro h
    rw [readFormat?] at h
    split at h
    · cases h
    · next c rest hdrop =>
        cases h
        have hc : c = quoteMark := by
          have hhead : (text.dropWhile (· ≠ quoteMark)).head? = some c := by
            rw [hdrop]
            rfl
          simpa using head?_dropWhile_eq_some hhead
        subst hc
        refine ⟨text.takeWhile (· ≠ quoteMark), rest.dropWhile (· ≠ quoteMark), ?_, ?_, ?_, ?_⟩
        · rw [List.takeWhile_append_dropWhile, ← hdrop, List.takeWhile_append_dropWhile]
        · intro hmem
          simpa using List.mem_takeWhile_imp hmem
        · intro hmem
          simpa using List.mem_takeWhile_imp hmem
        · intro c hc
          simpa using head?_dropWhile_eq_some hc
  · rintro ⟨front, rest, rfl, hfront, hformat, hrest⟩
    have hstop : ∀ c, rest.head? = some c → decide (c ≠ quoteMark) = false := by
      intro c hc
      simp [hrest c hc]
    obtain ⟨hquoted, _⟩ := takeWhile_dropWhile_append (decide_ne_quoteMark_of_not_mem hformat) hstop
    have hquote : ∀ c, (quoteMark :: (format ++ rest)).head? = some c → decide (c ≠ quoteMark) = false := by
      simp
    obtain ⟨_, hdrop⟩ := takeWhile_dropWhile_append (decide_ne_quoteMark_of_not_mem hfront) hquote
    rw [readFormat?, hdrop]
    exact congrArg some hquoted

theorem readFormat?_eq_none_iff {text : List Char} : readFormat? text = none ↔ quoteMark ∉ text := by
  constructor
  · intro h hmem
    rw [readFormat?] at h
    split at h
    · next hdrop =>
        have hall := List.dropWhile_eq_nil_iff.mp hdrop quoteMark hmem
        simp at hall
    · cases h
  · intro h
    have hdrop := List.dropWhile_eq_nil_iff.mpr (decide_ne_quoteMark_of_not_mem h)
    rw [readFormat?, hdrop]

/-- Characters that are no quotes before a text change nothing of its format. -/
theorem readFormat?_append {front : List Char} (h : quoteMark ∉ front) (text : List Char) :
    readFormat? (front ++ text) = readFormat? text := by
  rw [readFormat?, List.dropWhile_append_of_pos (decide_ne_quoteMark_of_not_mem h), readFormat?]

/-- Without the blanks at its start, a body is empty, or starts with a quote, or starts with a path. -/
theorem takeWhile_isPathChar_dropBlanks {body : List Char} (hbare : Text.dropBlanks body ≠ [])
    (hquote : (Text.dropBlanks body).head? ≠ some quoteMark) :
    (Text.dropBlanks body).takeWhile isPathChar ≠ [] := by
  obtain ⟨c, rest, hc⟩ := List.exists_cons_of_ne_nil hbare
  have hhead : (body.dropWhile Text.isBlank).head? = some c := by
    rw [← Text.dropBlanks, hc]
    rfl
  have hblank : Text.isBlank c = false := head?_dropWhile_eq_some hhead
  have hne : c ≠ quoteMark := by
    rintro rfl
    rw [hc] at hquote
    exact hquote rfl
  rw [hc]
  simp [isPathChar, hblank, hne]

/-- A body that starts with a path is read as a value: its path is the longest front without blanks and quotes, and its
format is the one in the whole text. -/
theorem readValue_of_path {body : List Char} (hbare : Text.dropBlanks body ≠ [])
    (hquote : (Text.dropBlanks body).head? ≠ some quoteMark) :
    readValue body = .segment (.value
      ((splitAtPoints ((Text.dropBlanks body).takeWhile isPathChar)).map String.ofList)
      ((readFormat? (Text.dropBlanks body)).map String.ofList)) := by
  have hfree : quoteMark ∉ (Text.dropBlanks body).takeWhile isPathChar := by
    intro hmem
    have hchar := List.mem_takeWhile_imp hmem
    simp [isPathChar] at hchar
  have hformat : readFormat? ((Text.dropBlanks body).dropWhile isPathChar) =
      readFormat? (Text.dropBlanks body) := by
    rw [← readFormat?_append hfree, List.takeWhile_append_dropWhile]
  rw [← hformat]
  simp [readValue, hbare, takeWhile_isPathChar_dropBlanks hbare hquote]

/-- A body without a path is not read as a segment. -/
theorem readValue_of_no_path {body : List Char}
    (h : Text.dropBlanks body = [] ∨ (Text.dropBlanks body).head? = some quoteMark) :
    readValue body = .blank ∨ readValue body = .noPath := by
  rcases h with h | h
  · left
    simp [readValue, h]
  · right
    obtain ⟨rest, hrest⟩ := List.head?_eq_some_iff.mp h
    simp [readValue, hrest, isPathChar]

/-! ## Segments that pass their checks -/

namespace Segment

/-- The segment as it comes from outside. -/
def draft : Segment → Draft
  | literal text => .literal (some (.text text))
  | scopeOpen name => .scopeOpen (some (.text name))
  | scopeClose => .scopeClose
  | value path format => .value (some (.tuple (path.map .text))) (format.map .text)

theorem entryErrors_map_text (field : String) (index : Nat) (path : List String) :
    Draft.entryErrors field index (path.map .text) = [] := by
  induction path generalizing index with
  | nil => rfl
  | cons name path ih => simp [Draft.entryErrors, Value.asText?, ih]

theorem filterMap_asText?_map_text (path : List String) :
    (path.map Value.text).filterMap Value.asText? = path := by
  induction path with
  | nil => rfl
  | cons name path ih => simp [Value.asText?, ih]

/-- A valid segment passes all checks, and stays what it is. -/
theorem IsValid.toSegment?_draft {s : Segment} (h : s.IsValid) : s.draft.toSegment? = .ok (some s) := by
  cases s with
  | literal text => rfl
  | scopeOpen name =>
      have hname : name ≠ "" := h
      simp [draft, Draft.toSegment?, Draft.checkName, Draft.checkText, Checked.text, Value.asText?,
        hname, bind, Except.bind, pure, Except.pure]
  | scopeClose => rfl
  | value path format =>
      have hpath : path ≠ [] := h
      have hitems : Draft.checkItems "path" (path.map .text) = .ok path := by
        rw [Draft.checkItems, entryErrors_map_text, filterMap_asText?_map_text]
        simp [hpath, pure, Except.pure]
      rw [draft, Draft.toSegment?, Draft.checkPath, hitems]
      cases format with
      | none => rfl
      | some format => rfl

end Segment

/-! ## Reading a body -/

/-- Without the blanks at its start, the body starts with this path, and its first quotes hold this format. -/
structure ShowsValue (body : List Char) (path : List String) (format : Option String) : Prop where
  path_isLongestFront : IsLongestFront isPathChar (Text.dropBlanks body) (Segment.dotted path).toList
  path_ne_nil : path ≠ []
  not_mem_point : ∀ name, name ∈ path → '.' ∉ name.toList
  format_eq_none_iff : format = none ↔ quoteMark ∉ Text.dropBlanks body
  isFirstQuoted : ∀ text, format = some text → IsFirstQuoted (Text.dropBlanks body) text.toList

theorem showsValue_splitAtPoints (body : List Char) :
    ShowsValue body ((splitAtPoints ((Text.dropBlanks body).takeWhile isPathChar)).map String.ofList)
      ((readFormat? (Text.dropBlanks body)).map String.ofList) where
  path_isLongestFront := by
    rw [toList_dotted_splitAtPoints]
    exact isLongestFront_takeWhile
  path_ne_nil := by
    simpa using splitAtPoints_ne_nil _
  not_mem_point := by
    intro name hname
    obtain ⟨part, hpart, rfl⟩ := List.mem_map.mp hname
    rw [String.toList_ofList]
    exact (intercalate_splitAtPoints _).2 part hpart
  format_eq_none_iff := by
    rw [Option.map_eq_none_iff, readFormat?_eq_none_iff]
  isFirstQuoted := by
    intro text htext
    obtain ⟨format, hformat, rfl⟩ := Option.map_eq_some_iff.mp htext
    rw [String.toList_ofList]
    exact readFormat?_eq_some_iff.mp hformat

namespace Grammar

variable {g : Grammar} {body : List Char}

/-- A body that closes no scope and opens none gives a value or nothing. -/
theorem bodySegment?_of_value (hcloses : body ≠ g.closer)
    (hopens : ∀ name, ¬ OpensScope g.keyword body name) :
    (g.bodySegment? body = none ↔
        Text.dropBlanks body = [] ∨ (Text.dropBlanks body).head? = some quoteMark) ∧
      (g.bodySegment? body = none ∨ ∃ path format,
        g.bodySegment? body = some (.value path format) ∧ ShowsValue body path format) := by
  have hscope : g.scopeName? body = none := by
    cases hname : g.scopeName? body with
    | none => rfl
    | some name => exact absurd (scopeName?_eq_some_iff.mp hname) (hopens name)
  have hread : g.readToken body = readValue body := by
    rw [readToken, if_neg hcloses, hscope]
  by_cases hpath : Text.dropBlanks body = [] ∨ (Text.dropBlanks body).head? = some quoteMark
  · have hnone : g.bodySegment? body = none := by
      rcases readValue_of_no_path hpath with h | h
      · rw [bodySegment?, hread, h]
      · rw [bodySegment?, hread, h]
    exact ⟨iff_of_true hnone hpath, .inl hnone⟩
  · obtain ⟨hbare, hquote⟩ := not_or.mp hpath
    have hsome := readValue_of_path hbare hquote
    rw [← hread] at hsome
    rw [bodySegment?, hsome]
    exact ⟨iff_of_false (by simp) hpath, .inr ⟨_, _, rfl, showsValue_splitAtPoints body⟩⟩

/-- What a body gives: it closes a scope, or opens one on a name, or gives a value or nothing. -/
theorem bodySegment?_cases (g : Grammar) (body : List Char) :
    body = g.closer ∧ g.bodySegment? body = some .scopeClose ∨
      (∃ name : String, (body ≠ g.closer ∧ OpensScope g.keyword body name.toList) ∧
        g.bodySegment? body = some (.scopeOpen name)) ∨
      (body ≠ g.closer ∧ ∀ name, ¬ OpensScope g.keyword body name) ∧
        (g.bodySegment? body = none ∨ ∃ path format,
          g.bodySegment? body = some (.value path format) ∧ ShowsValue body path format) := by
  by_cases hcloses : body = g.closer
  · exact .inl ⟨hcloses, by rw [bodySegment?, readToken, if_pos hcloses]⟩
  · right
    by_cases hopens : ∃ name, OpensScope g.keyword body name
    · left
      obtain ⟨name, hopen⟩ := hopens
      refine ⟨String.ofList name, ⟨hcloses, by rwa [String.toList_ofList]⟩, ?_⟩
      rw [bodySegment?, readToken, if_neg hcloses, scopeName?_eq_some_iff.mpr hopen]
    · have hnone : ∀ name, ¬ OpensScope g.keyword body name := not_exists.mp hopens
      exact .inr ⟨⟨hcloses, hnone⟩, (bodySegment?_of_value hcloses hnone).2⟩

/-- The closing word closes a scope, and no other body does. -/
theorem bodySegment?_eq_scopeClose_iff : g.bodySegment? body = some .scopeClose ↔ body = g.closer := by
  obtain ⟨hcloses, h⟩ | ⟨name, ⟨hcloses, _⟩, h⟩ | ⟨⟨hcloses, _⟩, h | ⟨path, format, h, _⟩⟩ := bodySegment?_cases g body
  · exact iff_of_true h hcloses
  · exact iff_of_false (by simp [h]) hcloses
  · exact iff_of_false (by simp [h]) hcloses
  · exact iff_of_false (by simp [h]) hcloses

/-- A body that is not the closing word and opens a scope on a name is read so, and no other body is. -/
theorem bodySegment?_eq_scopeOpen_iff {name : String} : g.bodySegment? body = some (.scopeOpen name) ↔
    body ≠ g.closer ∧ OpensScope g.keyword body name.toList := by
  obtain ⟨hcloses, h⟩ | ⟨other, ⟨hcloses, hopen⟩, h⟩ | ⟨⟨_, hnone⟩, h | ⟨path, format, h, _⟩⟩ :=
    bodySegment?_cases g body
  · exact iff_of_false (by simp [h]) fun hopens => hopens.1 hcloses
  · -- a body opens a scope on one name only
    have hother := scopeName?_eq_some_iff.mpr hopen
    rw [h, and_iff_right hcloses, ← scopeName?_eq_some_iff, hother, Option.some.injEq, Option.some.injEq,
      Segment.scopeOpen.injEq, String.toList_inj]
  · exact iff_of_false (by simp [h]) fun hopens => hnone _ hopens.2
  · exact iff_of_false (by simp [h]) fun hopens => hnone _ hopens.2

/-- What a body gives passes the checks of its fields. -/
theorem isValid_of_bodySegment? {s : Segment} (hs : g.bodySegment? body = some s) : s.IsValid := by
  obtain ⟨_, h⟩ | ⟨name, ⟨_, hopen⟩, h⟩ | ⟨_, h | ⟨path, format, h, hshows⟩⟩ := bodySegment?_cases g body
  · cases h.symm.trans hs
    trivial
  · cases h.symm.trans hs
    exact hopen.name_ne
  · cases h.symm.trans hs
  · cases h.symm.trans hs
    exact hshows.path_ne_nil

/-- For every grammar that is accepted, every body of a token and in every voice, classifying the body never fails. It
gives the end of a scope exactly for the closing word, and a scope on a name exactly for the bodies that open a scope on
it; the two do not overlap. Any other body, without the blanks at its start, gives nothing exactly if it is empty or
starts with a quote, and else a value: the dotted path of the value is the longest front without blanks and quotes, and
no name in it holds a point; it has no format exactly if there is no quote at all, and else the first text in quotes is
its format. All segments that are given pass the checks of their fields. -/
theorem classify_decides_grammar {opening closing keyword : String} {g : Grammar}
    (accepted : Grammar.make opening closing keyword = .ok g) (body : List Char) (voice : Voice) :
    let closes := body = '/' :: keyword.toList
    let opens := fun name : String => OpensScope keyword.toList body name.toList
    let bare := Text.dropBlanks body
    ∃ reading : Option Segment, (g.classify body).result voice = .ok reading ∧
      (reading = some .scopeClose ↔ closes) ∧
      (∀ name, reading = some (.scopeOpen name) ↔ opens name) ∧
      (∀ name, ¬ (closes ∧ opens name)) ∧
      (¬ closes → (∀ name, ¬ opens name) →
        (reading = none ↔ bare = [] ∨ bare.head? = some quoteMark) ∧
        (reading = none ∨ ∃ path format, reading = some (.value path format) ∧
          ShowsValue body path format)) ∧
      ∀ s, reading = some s → s.IsValid ∧ s.draft.toSegment? = .ok (some s) := by
  intro closes opens bare
  obtain ⟨_, _, _, _, _, hvalid, hkeyword, hcloser⟩ := make_eq_ok accepted
  have hcloses : closes ↔ body = g.closer := by
    rw [hcloser]
  have hopens : ∀ name, opens name ↔ OpensScope g.keyword body name.toList := by
    intro name
    rw [hkeyword]
  have hdisjoint : ∀ name, ¬ (closes ∧ opens name) := by
    rintro name ⟨hcloses, hopen⟩
    exact hopen.not_closes (fun c => isBlank_of_mem_keyword hvalid) hcloses
  refine ⟨g.bodySegment? body, result_classify g body voice, ?_, ?_, hdisjoint, ?_, ?_⟩
  · rw [hcloses, bodySegment?_eq_scopeClose_iff]
  · intro name
    rw [hopens, bodySegment?_eq_scopeOpen_iff]
    refine and_iff_right_of_imp fun hopen hcloser => ?_
    exact hdisjoint name ⟨hcloses.mpr hcloser, (hopens name).mpr hopen⟩
  · intro hnotClosed hnotOpened
    refine bodySegment?_of_value (mt hcloses.mpr hnotClosed) fun name hopen => ?_
    refine hnotOpened (String.ofList name) ((hopens _).mpr ?_)
    rwa [String.toList_ofList]
  · intro s hs
    have hsegment := isValid_of_bodySegment? hs
    exact ⟨hsegment, hsegment.toSegment?_draft⟩

/-- The keyword ends in a quote. Behind a blank a name opens a scope; behind a blank and a point there is no name, and the
quote of the keyword starts a format. -/
theorem classify_decides_grammar_of_near_misses :
    let g : Grammar := ⟨['<'], ['>'], ['w', '.', '"'], ['/', 'w', '.', '"']⟩
    Grammar.make "<" ">" "w.\"" = .ok g ∧
      (g.classify "w.\" a.b".toList).result {} = .ok (some (.scopeOpen "a")) ∧
      (g.classify "w.\" .a".toList).result {} = .ok (some (.value ["w", ""] (some " .a"))) ∧
      ShowsValue "w.\" .a".toList ["w", ""] (some " .a") := by
  intro g
  have accepted : Grammar.make "<" ">" "w.\"" = .ok g := by
    decide
  have hscope : g.scopeName? "w.\" a.b".toList = some ['a'] := by
    decide
  have hnoScope : g.scopeName? "w.\" .a".toList = none := by
    decide
  have hread : g.bodySegment? "w.\" .a".toList = some (.value ["w", ""] (some " .a")) := by
    decide
  obtain ⟨opened, hopened, _, hopens, _⟩ := classify_decides_grammar accepted "w.\" a.b".toList {}
  obtain ⟨shown, hshown, _, _, _, hvalue, _⟩ := classify_decides_grammar accepted "w.\" .a".toList {}
  refine ⟨accepted, ?_, ?_, ?_⟩
  · rw [hopened]
    exact congrArg _ ((hopens "a").mpr (scopeName?_eq_some_iff.mp hscope))
  · rw [result_classify, hread]
  · have hnone : ∀ name : String, ¬ OpensScope "w.\"".toList "w.\" .a".toList name.toList := by
      intro name hopen
      rw [← show g.keyword = "w.\"".toList from rfl, ← scopeName?_eq_some_iff, hnoScope] at hopen
      cases hopen
    rw [result_classify, hread] at hshown
    cases hshown
    rcases (hvalue (by decide) hnone).2 with h | ⟨path, format, h, hshows⟩
    · cases h
    · cases h
      exact hshows

end Grammar

end Stencil
