import Stencil.Proofs.Engine
import Stencil.Proofs.Session.SharedEngine

/-!
# Accepted settings

Settings and grammars are checked apart from each other: settings field by field, when they are read, and grammars as a
whole, when they are made. Settings that are accepted have marks of one character and a proper keyword
(`Settings.IsAccepted.of_read`); of what a grammar asks for, only that the marks differ is left open, for no field can
tell. So accepted settings give a grammar, and with it an engine, exactly if their marks differ; and what gives a grammar
is accepted as settings (`Settings.accepted_settings_agree_with_grammars`).
-/

namespace Stencil

/-! ## Checks -/

theorem Checked.both_eq_ok_iff {α β : Type} {first : Checked α} {second : Checked β} {a : α} {b : β} :
    Checked.both first second = .ok (a, b) ↔ first = .ok a ∧ second = .ok b := by
  cases first with
  | error errors =>
      cases second with
      | error more => simp [Checked.both]
      | ok b => simp [Checked.both]
  | ok a =>
      cases second with
      | error more => simp [Checked.both]
      | ok b => simp [Checked.both]

namespace Grammar

variable {opening closing keyword : String}

/-- Two marks of one character that differ, and a keyword, make a grammar. -/
theorem make_eq_ok_iff {g : Grammar} : Grammar.make opening closing keyword = .ok g ↔
    (opening.length = 1 ∧ closing.length = 1 ∧ opening ≠ closing ∧ isKeyword keyword = true) ∧
      g = ⟨opening.toList, closing.toList, keyword.toList, '/' :: keyword.toList⟩ := by
  rw [make]
  constructor
  · intro h
    split at h
    · cases h
    · next hlength =>
        split at h
        · cases h
        · next hdiffer =>
            split at h
            · cases h
            · next hkeyword =>
                cases h
                rw [not_or, not_not, not_not] at hlength
                exact ⟨⟨hlength.1, hlength.2, hdiffer, by simpa using hkeyword⟩, rfl⟩
  · rintro ⟨⟨hopening, hclosing, hdiffer, hkeyword⟩, rfl⟩
    rw [if_neg (by simp [hopening, hclosing]), if_neg hdiffer, if_neg (by simp [hkeyword])]
    rfl

theorem make_of_equal_marks (hlength : opening.length = 1) :
    Grammar.make opening opening keyword = .error .delimitersEqual := by
  rw [make, if_neg (by simp [hlength]), if_pos rfl]
  rfl

end Grammar

namespace Settings

/-! ## Fields -/

/-- A mark is a text of one character. -/
theorem checkMark_eq_ok_iff {name text : String} {given : Value} :
    checkMark name given = .ok text ↔ Checked.text name given = .ok text ∧ text.length = 1 := by
  rw [checkMark]
  cases Checked.text name given with
  | error errors =>
      exact iff_of_false nofun fun h => nomatch h.1
  | ok read =>
      change (if read.length ≠ 1 then _ else Except.ok read) = _ ↔ _
      split
      · next hlength =>
          refine iff_of_false nofun ?_
          rintro ⟨hread, htext⟩
          cases hread
          exact hlength htext
      · next hlength =>
          rw [not_not] at hlength
          constructor
          · intro h
            cases h
            exact ⟨rfl, hlength⟩
          · exact fun h => h.1

/-- A keyword is a text that looks like one. -/
theorem checkKeyword_eq_ok_iff {name text : String} {given : Value} :
    checkKeyword name given = .ok text ↔ Checked.text name given = .ok text ∧ isKeyword text = true := by
  rw [checkKeyword]
  cases Checked.text name given with
  | error errors =>
      exact iff_of_false nofun fun h => nomatch h.1
  | ok read =>
      change (if isKeyword read then Except.ok read else _) = _ ↔ _
      split
      · next hkeyword =>
          constructor
          · intro h
            cases h
            exact ⟨rfl, hkeyword⟩
          · exact fun h => h.1
      · next hkeyword =>
          refine iff_of_false nofun ?_
          rintro ⟨hread, htext⟩
          cases hread
          exact hkeyword htext

section Fields

variable {α : Type} {check : String → Value → Checked α} {name : String} {standard content : α}
  {given : String → Option Value}

/-- What holds of the standard content of a field and of all that passes its check holds of its content. -/
theorem holds_of_field {P : α → Prop} (h : field check name standard given = .ok content)
    (hstandard : P standard) (hcheck : ∀ value, check name value = .ok content → P content) :
    P content := by
  rw [field] at h
  split at h
  · cases h
    exact hstandard
  · next value _ => exact hcheck value h

theorem field_of_given {value : Value} (hgiven : given name = some value)
    (hcheck : check name value = .ok content) : field check name standard given = .ok content := by
  rw [field, hgiven]
  exact hcheck

end Fields

/-- Settings are read field by field. -/
theorem read_eq_ok_iff {named : Fields} {environment : List (String × String)} {settings : Settings} :
    read named environment = .ok settings ↔
      field Checked.boolean "beQuiet" false (given? named environment) = .ok settings.voice.quiet ∧
      field Checked.boolean "noComplain" false (given? named environment) =
        .ok settings.voice.uncomplaining ∧
      field checkMark "tokenOpen" "[" (given? named environment) = .ok settings.opening ∧
      field checkMark "tokenClose" "]" (given? named environment) = .ok settings.closing ∧
      field checkKeyword "scopeKeyword" "with" (given? named environment) = .ok settings.keyword := by
  rw [← Checked.both_eq_ok_iff, ← Checked.both_eq_ok_iff, ← Checked.both_eq_ok_iff,
    ← Checked.both_eq_ok_iff]
  change _ ↔ checkFields (given? named environment) = _
  rw [read]
  obtain ⟨⟨quiet, uncomplaining⟩, opening, closing, keyword⟩ := settings
  cases checkFields (given? named environment) with
  | error errors =>
      constructor
      · intro h
        cases h
      · intro h
        cases h
  | ok content =>
      constructor
      · intro h
        cases h
        rfl
      · intro h
        cases h
        rfl

/-- What every check of settings makes sure of: the marks have one character, and the keyword is one. -/
structure IsAccepted (settings : Settings) : Prop where
  length_opening : settings.opening.length = 1
  length_closing : settings.closing.length = 1
  isKeyword_keyword : isKeyword settings.keyword = true

theorem IsAccepted.of_read {named : Fields} {environment : List (String × String)} {settings : Settings}
    (h : read named environment = .ok settings) : settings.IsAccepted := by
  obtain ⟨_, _, hopening, hclosing, hkeyword⟩ := read_eq_ok_iff.mp h
  refine ⟨?_, ?_, ?_⟩
  · exact holds_of_field (P := fun text => text.length = 1) hopening rfl
      fun value hvalue => (checkMark_eq_ok_iff.mp hvalue).2
  · exact holds_of_field (P := fun text => text.length = 1) hclosing rfl
      fun value hvalue => (checkMark_eq_ok_iff.mp hvalue).2
  · exact holds_of_field (P := fun text => isKeyword text = true) hkeyword (by decide)
      fun value hvalue => (checkKeyword_eq_ok_iff.mp hvalue).2

/-! ## Grammars from settings -/

section Grammars

variable {settings : Settings} (h : settings.IsAccepted)
include h

/-- The grammar that accepted settings ask for can be made if their marks differ. -/
theorem IsAccepted.grammar_eq_ok (hdiffer : settings.opening ≠ settings.closing) :
    settings.grammar none none none = .ok ⟨settings.opening.toList, settings.closing.toList,
      settings.keyword.toList, '/' :: settings.keyword.toList⟩ :=
  Grammar.make_eq_ok_iff.mpr
    ⟨⟨h.length_opening, h.length_closing, hdiffer, h.isKeyword_keyword⟩, rfl⟩

theorem IsAccepted.grammar_eq_error (hequal : settings.opening = settings.closing) :
    settings.grammar none none none = .error .delimitersEqual := by
  change Grammar.make settings.opening settings.closing settings.keyword = _
  rw [← hequal]
  exact Grammar.make_of_equal_marks h.length_opening

end Grammars

/-- Marks and a keyword that are given by their names, in front of what else is given. -/
def withMarks (opening closing keyword : String) (named : Fields) : Fields :=
  ("tokenOpen", .text opening) :: ("tokenClose", .text closing) ::
    ("scopeKeyword", .text keyword) :: named

section Given

variable (opening closing keyword : String) (named : Fields) (environment : List (String × String))

theorem given?_withMarks_tokenOpen :
    given? (withMarks opening closing keyword named) environment "tokenOpen" = some (.text opening) := by
  rfl

theorem given?_withMarks_tokenClose :
    given? (withMarks opening closing keyword named) environment "tokenClose" = some (.text closing) := by
  rfl

theorem given?_withMarks_scopeKeyword :
    given? (withMarks opening closing keyword named) environment "scopeKeyword" =
      some (.text keyword) := by
  rfl

/-- Marks and keyword do not stand in for other settings. -/
theorem given?_withMarks_of_other {name : String}
    (hname : ∀ other, other ∈ ["tokenOpen", "tokenClose", "scopeKeyword"] → sameName other name = false) :
    given? (withMarks opening closing keyword named) environment name = given? named environment name := by
  have hne : ∀ other, other ∈ ["tokenOpen", "tokenClose", "scopeKeyword"] → (name == other) = false := by
    intro other hother
    rw [beq_eq_false_iff_ne]
    rintro rfl
    have hsame := hname name hother
    simp [sameName] at hsame
  simp only [List.forall_mem_cons] at hname hne
  obtain ⟨hopening, hclosing, hkeyword, _⟩ := hname
  obtain ⟨hopening', hclosing', hkeyword', _⟩ := hne
  simp [given?, byName?, withMarks, Fields.find?, List.lookup_cons, hopening, hclosing, hkeyword, hopening',
    hclosing', hkeyword']

/-- What is given for the silencing of notes is not touched. -/
theorem given?_withMarks_of_flag {name : String} (hname : name ∈ ["beQuiet", "noComplain"]) :
    given? (withMarks opening closing keyword named) environment name = given? named environment name := by
  refine given?_withMarks_of_other _ _ _ _ _ ?_
  revert name
  with_unfolding_all decide

end Given

/-- What a grammar can be made from is accepted as settings, beside all that is given for the other settings. -/
theorem read_withMarks {opening closing keyword : String} {g : Grammar}
    (accepted : Grammar.make opening closing keyword = .ok g) {named : Fields}
    {environment : List (String × String)} {quiet uncomplaining : Bool}
    (hquiet : field Checked.boolean "beQuiet" false (given? named environment) = .ok quiet)
    (huncomplaining :
      field Checked.boolean "noComplain" false (given? named environment) = .ok uncomplaining) :
    read (withMarks opening closing keyword named) environment =
      .ok ⟨⟨quiet, uncomplaining⟩, opening, closing, keyword⟩ := by
  obtain ⟨⟨hopening, hclosing, _, hkeyword⟩, _⟩ := Grammar.make_eq_ok_iff.mp accepted
  refine read_eq_ok_iff.mpr ⟨?_, ?_, ?_, ?_, ?_⟩
  · rw [field, given?_withMarks_of_flag _ _ _ _ _ (by simp)]
    exact hquiet
  · rw [field, given?_withMarks_of_flag _ _ _ _ _ (by simp)]
    exact huncomplaining
  · exact field_of_given (given?_withMarks_tokenOpen opening closing keyword named environment)
      (checkMark_eq_ok_iff.mpr ⟨rfl, hopening⟩)
  · exact field_of_given (given?_withMarks_tokenClose opening closing keyword named environment)
      (checkMark_eq_ok_iff.mpr ⟨rfl, hclosing⟩)
  · exact field_of_given (given?_withMarks_scopeKeyword opening closing keyword named environment)
      (checkKeyword_eq_ok_iff.mpr ⟨rfl, hkeyword⟩)

/-! ## Engines from settings -/

/-- Where the settings in force ask for an engine that can be made, applying a template with the shared engine is applying
that engine, unless there was a shared one before. -/
theorem outcome_applyShared {session : Session} {engine : Engine}
    (hmade : EngineRequest.make {} session.settings = .ok engine) (template : Option String) :
    (session.step (.applyShared template)).outcome =
      (Answer.text <$> (session.shared.getD engine).apply template session.source).run
        session.settings.voice := by
  cases hshared : session.shared with
  | some shared => rw [Session.step_applyShared_of_some hshared, Option.getD_some]
  | none => rw [Session.step_applyShared_of_made hshared hmade, Option.getD_none]

/-- So it ends in a text, unless rendering ends in a fault that cannot be reported. -/
theorem exists_result_applyShared {session : Session} {engine : Engine}
    (hmade : EngineRequest.make {} session.settings = .ok engine) (template : Option String) :
    (∃ text, (session.step (.applyShared template)).outcome.result = .ok (.text text)) ∨
      ∃ escaping, (session.shared.getD engine).RendersEscaping template session.source session.settings.voice
          escaping ∧
        (session.step (.applyShared template)).outcome.result = .error escaping := by
  rw [outcome_applyShared hmade, Noted.run_map]
  obtain ⟨text, htext⟩ | ⟨escaping, hescaping, hresult⟩ :=
    (session.shared.getD engine).exists_result_apply template session.source session.settings.voice
  · exact .inl ⟨text, by rw [htext]; rfl⟩
  · exact .inr ⟨escaping, hescaping, by rw [hresult]; rfl⟩

/-- For all settings that are accepted, whatever is given by name and in the environment: if the two marks differ, they
give a grammar, and with it an engine, and applying a template with the shared engine ends in a text, in every session
with these settings, unless rendering ends in a fault that cannot be reported; if the marks are equal, they give no grammar, and as long as there is no shared engine, applying a
template ends in this fault and changes nothing. Conversely, marks and a keyword from which a grammar can be made are
accepted when they are given by name, beside all other names and every environment whose flags are accepted. -/
theorem accepted_settings_agree_with_grammars :
    (∀ (named : Fields) (environment : List (String × String)) (settings : Settings),
      read named environment = .ok settings →
        (settings.opening ≠ settings.closing →
          ∃ grammar, settings.grammar none none none = .ok grammar ∧
            EngineRequest.make {} settings = .ok ⟨grammar, .standard⟩ ∧
            ∀ session : Session, session.settings = settings → ∀ template,
              (∃ text, (session.step (.applyShared template)).outcome.result = .ok (.text text)) ∨
              ∃ escaping, (session.shared.getD ⟨grammar, .standard⟩).RendersEscaping template session.source
                  settings.voice escaping ∧
                (session.step (.applyShared template)).outcome.result = .error escaping) ∧
        (settings.opening = settings.closing →
          settings.grammar none none none = .error .delimitersEqual ∧
          EngineRequest.make {} settings = .error .delimitersEqual ∧
          ∀ session : Session, session.settings = settings → session.shared = none → ∀ template,
            session.step (.applyShared template) = ⟨session, ⟨[], .error .delimitersEqual⟩⟩)) ∧
    ∀ (opening closing keyword : String) (g : Grammar), Grammar.make opening closing keyword = .ok g →
      ∀ (named : Fields) (environment : List (String × String)) (quiet uncomplaining : Bool),
        field Checked.boolean "beQuiet" false (given? named environment) = .ok quiet →
        field Checked.boolean "noComplain" false (given? named environment) = .ok uncomplaining →
          read (("tokenOpen", .text opening) :: ("tokenClose", .text closing) ::
              ("scopeKeyword", .text keyword) :: named) environment =
            .ok ⟨⟨quiet, uncomplaining⟩, opening, closing, keyword⟩ := by
  refine ⟨?_, fun opening closing keyword g accepted named environment quiet uncomplaining =>
    read_withMarks accepted⟩
  intro named environment settings hread
  have haccepted := IsAccepted.of_read hread
  refine ⟨?_, ?_⟩
  · intro hdiffer
    have hgrammar := haccepted.grammar_eq_ok hdiffer
    have hmade : EngineRequest.make {} settings = .ok ⟨_, .standard⟩ :=
      Session.make_eq_ok_iff.mpr ⟨hgrammar, rfl⟩
    refine ⟨_, hgrammar, hmade, ?_⟩
    rintro session rfl template
    exact exists_result_applyShared hmade template
  · intro hequal
    have hgrammar := haccepted.grammar_eq_error hequal
    have hmade := Session.make_eq_error hgrammar
    refine ⟨hgrammar, hmade, ?_⟩
    rintro session rfl hshared template
    exact Session.step_applyShared_of_refused hshared hmade template

/-- A mark is given as bytes, a flag as a word, and the environment holds nothing that counts. -/
theorem accepted_settings_agree_with_grammars_of_given_marks :
    let named : Fields :=
      [("tokenOpen", .bytes [60]), ("tokenClose", .text ">"), ("noComplain", .text "Yes")]
    let environment := [("TPL", "[[")]
    let settings : Settings := { voice := { uncomplaining := true }, opening := "<", closing := ">" }
    read named environment = .ok settings ∧ settings.opening ≠ settings.closing ∧
      (∃ grammar, settings.grammar none none none = .ok grammar) ∧
      Grammar.make "(" ")" "at" = .ok ⟨['('], [')'], ['a', 't'], ['/', 'a', 't']⟩ ∧
      read (("tokenOpen", .text "(") :: ("tokenClose", .text ")") :: ("scopeKeyword", .text "at") ::
        named) environment = .ok ⟨⟨false, true⟩, "(", ")", "at"⟩ := by
  intro named environment settings
  have hread : read named environment = .ok settings := by
    with_unfolding_all rfl
  have hdiffer : settings.opening ≠ settings.closing := by
    decide
  have hmade : Grammar.make "(" ")" "at" = .ok ⟨['('], [')'], ['a', 't'], ['/', 'a', 't']⟩ := by
    decide
  obtain ⟨hquiet, huncomplaining, _⟩ := read_eq_ok_iff.mp hread
  obtain ⟨grammar, hgrammar, _⟩ :=
    (accepted_settings_agree_with_grammars.1 named environment settings hread).1 hdiffer
  exact ⟨hread, hdiffer, ⟨grammar, hgrammar⟩, hmade,
    accepted_settings_agree_with_grammars.2 _ _ _ _ hmade named environment _ _ hquiet huncomplaining⟩

/-- Settings with equal marks are accepted, and give no grammar; the first template that is applied with the shared engine
ends in a fault. -/
theorem accepted_settings_without_grammar :
    let settings : Settings := { opening := "|", closing := "|" }
    read [("tokenOpen", .text "|"), ("tokenClose", .text "|")] [] = .ok settings ∧
      ¬ (∃ grammar, settings.grammar none none none = .ok grammar) ∧
      (Session.step { settings } (.applyShared (some "a"))).outcome.result = .error .delimitersEqual := by
  intro settings
  have hread : read [("tokenOpen", .text "|"), ("tokenClose", .text "|")] [] = .ok settings := by
    with_unfolding_all rfl
  have hnone : settings.grammar none none none = .error .delimitersEqual :=
    (IsAccepted.of_read hread).grammar_eq_error rfl
  have hmade : EngineRequest.make {} settings = .error .delimitersEqual := Session.make_eq_error hnone
  have hshared : Session.shared { settings } = none := rfl
  have hrefused : Session.step { settings } (.applyShared (some "a")) =
      ⟨{ settings }, ⟨[], .error .delimitersEqual⟩⟩ :=
    Session.step_applyShared_of_refused hshared hmade (some "a")
  have hgrammar : ¬ (∃ grammar, settings.grammar none none none = .ok grammar) := by
    rw [hnone]
    rintro ⟨grammar, h⟩
    cases h
  have hresult : (Session.step { settings } (.applyShared (some "a"))).outcome.result =
      .error .delimitersEqual := by
    rw [hrefused]
  exact And.intro hread (And.intro hgrammar hresult)

end Settings

end Stencil
