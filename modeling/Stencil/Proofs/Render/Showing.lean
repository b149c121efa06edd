import Stencil.Proofs.Data.Ordinary
import Stencil.Proofs.Journal.Outcome
import Stencil.Render

/-!
# Showing values

A value that has a text is shown under every format: in the format if it takes it, and by its plain text if it
does not. What stands against this are formats of values with rules of their own. The library takes a fault for
the refusal of a format only if the fault is of certain families, and such a rule may raise any other fault; that
fault is not held back. Neither is the fault of putting a refusal into words, nor that of testing the type of the
value (`Value.FailsBeyondRefusal`).

* `Value.failsBeyondRefusal_iff`: what these faults are for a value that has a text.
* `Value.shows_formatted_or_plain_iff`: the text is the documented one exactly if there is no such fault, and
  otherwise showing the value ends in it.
-/

namespace Stencil

/-- Beside the families that refuse a format, there are missing attributes, interrupts and kinds that the library
does not know. -/
theorem FaultKind.refusesFormat_eq_false_iff {kind : FaultKind} :
    kind.refusesFormat = false ↔
      kind = .missingAttribute ∨ (∃ name, kind = .interrupt name) ∨ ∃ name, kind = .other name := by
  cases kind with
  | missingAttribute => simp [refusesFormat]
  | interrupt name => simp [refusesFormat]
  | other name => simp [refusesFormat]
  | _ => simp [refusesFormat]

namespace Value

/-- The plain text of a value whose own text is `shown`: nothing has an empty one. -/
def plainShown (value : Value) (shown : String) : String :=
  if value.isNothing then "" else shown

/-- The text that a value should be shown with, if its own text is `shown`: the text in the format, or the plain
text where there is no format, where the value is never formatted, and where formatting fails. -/
def formattedOrPlain (value : Value) (shown : String) : Option String → String
  | none => value.plainShown shown
  | some format =>
      if value.ignoresFormats then value.plainShown shown
      else match value.format format with
        | .ok formatted => formatted
        | .error _ => value.plainShown shown

/-- Under this format a fault is not held back: that of testing the type of the value; or the value has a rule of
its own, and the rule raises a fault that is neither a wrong type or value, nor arithmetic, nor a missing key or
index, or one that is, but whose text cannot be made for this fault. -/
inductive FailsBeyondRefusal (value : Value) (format : String) : Fault → Prop
  | ofType {fault : Fault} : value.typeFault? = some fault → FailsBeyondRefusal value format fault
  | ofRule {typeName : String} {text : TextRule} {rule : String → Except Fault String} {fault : Fault} :
      value = special typeName text (.custom rule) → rule format = .error fault →
        fault.kind = .missingAttribute ∨ (∃ name, fault.kind = .interrupt name) ∨
          (∃ name, fault.kind = .other name) → FailsBeyondRefusal value format fault
  | ofWording {typeName : String} {text : TextRule} {rule : String → Except Fault String}
      {refusal fault : Fault} :
      value = special typeName text (.custom rule) → rule format = .error refusal →
        refusal.kind.refusesFormat = true → refusal.text = .error fault → FailsBeyondRefusal value format fault

section Showing

variable {value : Value} {shown : String} {format : String} {fault : Fault} {voice : Voice}

theorem plainText_eq_ok_plainShown (h : value.toText = .ok shown) :
    value.plainText = .ok (value.plainShown shown) := by
  unfold plainText plainShown
  split
  · rfl
  · next hsome =>
      rw [if_neg (mt isNothing_iff.mp hsome)]
      exact h

/-- The fault of testing the type comes first; behind it, what the format ends in decides. -/
theorem failsBeyondRefusal_iff (h : value.toText = .ok shown) :
    value.FailsBeyondRefusal format fault ↔
      value.typeFault? = some fault ∨ value.typeFault? = none ∧
        ∃ raised, value.format format = .error raised ∧
          (raised.kind.refusesFormat = false ∧ raised = fault ∨
            raised.kind.refusesFormat = true ∧ raised.text = .error fault) := by
  constructor
  · intro hfails
    cases hfails with
    | ofType htype => exact .inl htype
    | ofRule hvalue hrule hkind =>
        subst hvalue
        exact .inr ⟨rfl, fault, hrule, .inl ⟨FaultKind.refusesFormat_eq_false_iff.mpr hkind, rfl⟩⟩
    | ofWording hvalue hrule hkind htext =>
        subst hvalue
        exact .inr ⟨rfl, _, hrule, .inr ⟨hkind, htext⟩⟩
  · rintro (htype | ⟨-, raised, hformat, hraised⟩)
    · exact .ofType htype
    · by_cases hown : ∃ typeName text rule, value = special typeName text (.custom rule)
      · obtain ⟨typeName, text, rule, rfl⟩ := hown
        rcases hraised with ⟨hkind, rfl⟩ | ⟨hkind, htext⟩
        · exact .ofRule rfl hformat (FaultKind.refusesFormat_eq_false_iff.mp hkind)
        · exact .ofWording rfl hformat hkind htext
      · -- all other formats only refuse, and say why
        have hrefuses : RefusesOnly (value.format format) :=
          refusesOnly_format_of_toText h fun typeName text rule hvalue =>
            absurd ⟨typeName, text, rule, hvalue⟩ hown
        obtain ⟨hrefusal, reason, hreason⟩ := hrefuses raised hformat
        rcases hraised with ⟨hkind, -⟩ | ⟨-, htext⟩
        · rw [hrefusal] at hkind
          cases hkind
        · rw [hreason] at htext
          cases htext

theorem FailsBeyondRefusal.ignoresFormats_eq_false (h : value.FailsBeyondRefusal format fault) :
    value.ignoresFormats = false := by
  cases h with
  | ofType htype =>
      cases value with
      | nothing | text | bytes | boolean => cases htype
      | _ => rfl
  | ofRule hvalue | ofWording hvalue =>
      subst hvalue
      rfl

/-- A value that is never formatted is shown by its plain text. -/
theorem result_showWith_of_ignoresFormats (h : value.toText = .ok shown)
    (hignores : value.ignoresFormats = true) :
    (value.showWith (some format)).result voice = .ok (value.plainShown shown) := by
  rw [showWith, if_pos hignores, plainText_eq_ok_plainShown h]
  rfl

/-- Where the type cannot be tested, no format is chosen. -/
theorem result_showWith_of_typeFault (hignores : value.ignoresFormats = false)
    (htype : value.typeFault? = some fault) :
    (value.showWith (some format)).result voice = .error fault := by
  rw [showWith, hignores, htype]
  rfl

theorem result_showWith_of_format_eq_ok {formatted : String} (hignores : value.ignoresFormats = false)
    (htype : value.typeFault? = none) (hformat : value.format format = .ok formatted) :
    (value.showWith (some format)).result voice = .ok formatted := by
  rw [showWith, hignores, htype, hformat]
  rfl

/-- A format that is refused is noted, and the value is shown by its plain text. -/
theorem result_showWith_of_refused (h : value.toText = .ok shown) (hignores : value.ignoresFormats = false)
    (htype : value.typeFault? = none) (hformat : value.format format = .error fault)
    (hrefuses : fault.kind.refusesFormat = true) :
    (value.showWith (some format)).result voice = (fun _ => value.plainShown shown) <$> fault.text := by
  rw [showWith, hignores, htype, hformat, if_neg Bool.false_ne_true]
  simp only [hrefuses, if_true]
  cases htext : fault.text with
  | error cause => rfl
  | ok reason =>
      rw [Noted.result_bind, Noted.result_ofExcept, Noted.ok_bind, Noted.result_bind, Noted.result_note,
        plainText_eq_ok_plainShown h]
      rfl

/-- A fault of another family is passed on. -/
theorem result_showWith_of_not_refused (hignores : value.ignoresFormats = false)
    (htype : value.typeFault? = none) (hformat : value.format format = .error fault)
    (hrefuses : fault.kind.refusesFormat = false) :
    (value.showWith (some format)).result voice = .error fault := by
  rw [showWith, hignores, htype, hformat, if_neg Bool.false_ne_true]
  simp only [hrefuses, Bool.false_eq_true, if_false]
  rfl

/-- A fault that is not held back is what showing the value ends in. -/
theorem result_showWith_of_failsBeyondRefusal (h : value.toText = .ok shown)
    (hfails : value.FailsBeyondRefusal format fault) :
    (value.showWith (some format)).result voice = .error fault := by
  have hignores := hfails.ignoresFormats_eq_false
  obtain htype | ⟨htype, raised, hformat, ⟨hkind, rfl⟩ | ⟨hkind, htext⟩⟩ :=
    (failsBeyondRefusal_iff h).mp hfails
  · exact result_showWith_of_typeFault hignores htype
  · exact result_showWith_of_not_refused hignores htype hformat hkind
  · rw [result_showWith_of_refused h hignores htype hformat hkind, htext]
    rfl

/-- Without such a fault, the value is shown as it should be. -/
theorem result_showWith_of_not_failsBeyondRefusal (h : value.toText = .ok shown)
    (hfails : ¬ ∃ fault, value.FailsBeyondRefusal format fault) :
    (value.showWith (some format)).result voice = .ok (value.formattedOrPlain shown (some format)) := by
  cases hignores : value.ignoresFormats with
  | true => rw [result_showWith_of_ignoresFormats h hignores, formattedOrPlain, if_pos hignores]
  | false =>
      cases htype : value.typeFault? with
      | some fault => exact absurd ⟨fault, .ofType htype⟩ hfails
      | none =>
          cases hformat : value.format format with
          | ok formatted =>
              rw [result_showWith_of_format_eq_ok hignores htype hformat, formattedOrPlain, hignores, hformat]
              rfl
          | error raised =>
              have hheld : ∀ fault, ¬ (raised.kind.refusesFormat = false ∧ raised = fault ∨
                  raised.kind.refusesFormat = true ∧ raised.text = .error fault) := fun fault hraised =>
                hfails ⟨fault, (failsBeyondRefusal_iff h).mpr (.inr ⟨htype, raised, hformat, hraised⟩)⟩
              cases hkind : raised.kind.refusesFormat with
              | false => exact absurd (.inl ⟨hkind, rfl⟩) (hheld raised)
              | true =>
                  cases htext : raised.text with
                  | error cause => exact absurd (.inr ⟨hkind, htext⟩) (hheld cause)
                  | ok reason =>
                      rw [result_showWith_of_refused h hignores htype hformat hkind, htext, formattedOrPlain,
                        hignores, hformat]
                      rfl

end Showing

/-- For every value that has a text, every format or none, and every voice: the value is shown as it should be,
in the format if it takes it and by its plain text otherwise, exactly if there is no fault that is not held back:
by a rule of the value, one that is neither a wrong type or value, nor arithmetic, nor a missing key or index, or
that of putting such a fault into words, or that of testing the type of the value. Showing the value ends in a
fault exactly if it is one of these. -/
theorem shows_formatted_or_plain_iff {value : Value} {shown : String} (h : value.toText = .ok shown)
    (format : Option String) (voice : Voice) :
    ((value.showWith format).result voice = .ok (value.formattedOrPlain shown format) ↔
      ¬ ∃ spec fault, format = some spec ∧ value.FailsBeyondRefusal spec fault) ∧
    ∀ fault, (value.showWith format).result voice = .error fault ↔
      ∃ spec, format = some spec ∧ value.FailsBeyondRefusal spec fault := by
  cases format with
  | none =>
      have hplain : (value.showWith none).result voice = .ok (value.plainShown shown) := by
        rw [showWith, plainText_eq_ok_plainShown h]
        rfl
      simp [hplain, formattedOrPlain]
  | some spec =>
      have hspec : ∀ fault, (∃ other, some spec = some other ∧ value.FailsBeyondRefusal other fault) ↔
          value.FailsBeyondRefusal spec fault := by
        intro fault
        simp
      by_cases hfails : ∃ fault, value.FailsBeyondRefusal spec fault
      · obtain ⟨fault, hfault⟩ := hfails
        have hresult : (value.showWith (some spec)).result voice = .error fault :=
          result_showWith_of_failsBeyondRefusal h hfault
        constructor
        · refine iff_of_false ?_ (not_not_intro ⟨spec, fault, rfl, hfault⟩)
          rw [hresult]
          simp
        · intro other
          rw [hspec]
          constructor
          · intro hother
            rw [hresult] at hother
            cases hother
            exact hfault
          · exact result_showWith_of_failsBeyondRefusal h
      · have hresult : (value.showWith (some spec)).result voice =
            .ok (value.formattedOrPlain shown (some spec)) :=
          result_showWith_of_not_failsBeyondRefusal h hfails
        constructor
        · refine iff_of_true hresult ?_
          rintro ⟨other, fault, hother⟩
          exact hfails ⟨fault, (hspec fault).mp ⟨other, hother⟩⟩
        · intro fault
          rw [hspec]
          refine iff_of_false ?_ fun hfault => hfails ⟨fault, hfault⟩
          rw [hresult]
          simp

/-- A price that takes one format, refuses another and breaks under all others. -/
theorem shows_formatted_or_plain_iff_of_price :
    let broken := Fault.raised (.other "RuntimeError") "no rates"
    let rule : String → Except Fault String := fun spec =>
      if spec = "EUR" then .ok "5 EUR" else if spec = "?" then .error (.raised .missingKey "?")
      else .error broken
    let price : Value := .special "Price" (.shown "5") (.custom rule)
    price.toText = .ok "5" ∧
      (price.showWith (some "EUR")).result {} = .ok "5 EUR" ∧
      (price.showWith (some "?")).result {} = .ok "5" ∧
      (price.showWith (some "USD")).result {} = .error broken := by
  intro broken rule price
  have htext : price.toText = .ok "5" := rfl
  refine ⟨htext, ?_, ?_, ?_⟩
  · refine (shows_formatted_or_plain_iff htext (some "EUR") {}).1.mpr ?_
    rintro ⟨spec, fault, hspec, hfault⟩
    cases hspec
    obtain htype | ⟨-, raised, hraised, -⟩ := (failsBeyondRefusal_iff htext).mp hfault
    · cases htype
    · cases hraised
  · refine (shows_formatted_or_plain_iff htext (some "?") {}).1.mpr ?_
    rintro ⟨spec, fault, hspec, hfault⟩
    cases hspec
    obtain htype | ⟨-, raised, hraised, ⟨hkind, -⟩ | ⟨-, hwording⟩⟩ := (failsBeyondRefusal_iff htext).mp hfault
    · cases htype
    · cases hraised
      cases hkind
    · cases hraised
      cases hwording
  · refine ((shows_formatted_or_plain_iff htext (some "USD") {}).2 broken).mpr ⟨"USD", rfl, ?_⟩
    exact .ofRule rfl rfl (.inr (.inr ⟨"RuntimeError", rfl⟩))

/-- Not every value that has a text is shown under every format. -/
theorem shows_nothing_under_failing_format :
    ¬ ∀ (value : Value) (shown : String), value.toText = .ok shown →
        ∀ (format : Option String) (voice : Voice),
          (value.showWith format).result voice = .ok (value.formattedOrPlain shown format) := by
  intro hall
  have hshown := hall (.special "C" (.shown "<C>") (.raises (.raised (.other "RuntimeError") "boom")))
    "<C>" rfl (some "x") {}
  cases hshown

end Value

end Stencil
