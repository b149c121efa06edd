import Stencil.Numeric.Format

/-!
# Formats of numbers only refuse

A number may not take a format: the format may not be a specification, or the number may be too large for
it, or have too many digits, or the decimal context may refuse it. In all of these cases the fault is one that
shows that the value cannot take the format (`FaultKind.refusesFormat`) and has a text to say so, and no other
fault is possible (`RefusesOnly`). There is one lemma for each step of formatting, and the lemmas are put
together along the sequence of the steps.
-/

namespace Stencil

variable {α β : Type}

/-- If a result is a fault, then it is one that shows that a value cannot take a format, and has a text. -/
def RefusesOnly (given : Except Fault α) : Prop :=
  ∀ fault, given = .error fault → fault.kind.refusesFormat = true ∧ ∃ reason, fault.text = .ok reason

namespace RefusesOnly

theorem ok (a : α) : RefusesOnly (.ok a) := by
  intro fault h
  cases h

theorem pure (a : α) : RefusesOnly (Pure.pure a : Except Fault α) :=
  ok a

theorem throw {fault : Fault} {reason : String} (hkind : fault.kind.refusesFormat = true)
    (htext : fault.text = .ok reason) : RefusesOnly (MonadExcept.throw fault : Except Fault α) := by
  intro other hother
  cases hother
  exact ⟨hkind, reason, htext⟩

theorem bind {given : Except Fault α} {next : α → Except Fault β} (hgiven : RefusesOnly given)
    (hnext : ∀ a, RefusesOnly (next a)) : RefusesOnly (given >>= next) := by
  intro fault h
  cases given with
  | error other =>
      cases h
      exact hgiven fault rfl
  | ok a => exact hnext a fault h

theorem map {given : Except Fault α} (f : α → β) (hgiven : RefusesOnly given) :
    RefusesOnly (f <$> given) := by
  intro fault h
  cases given with
  | error other =>
      cases h
      exact hgiven fault rfl
  | ok a => cases h

theorem ite {p : Prop} [Decidable p] {first second : Except Fault α} (hfirst : RefusesOnly first)
    (hsecond : RefusesOnly second) : RefusesOnly (if p then first else second) := by
  split
  · exact hfirst
  · exact hsecond

/-- The name of the type in a refusal does not change what the fault shows. -/
theorem ofType {given : Except Fault α} (typeName : String) (hgiven : RefusesOnly given) :
    RefusesOnly (given.mapError (Fault.ofType typeName)) := by
  intro fault h
  cases given with
  | ok a => cases h
  | error other =>
      cases h
      have hother := hgiven other rfl
      cases other with
      | specRefused refusal => exact ⟨rfl, _, rfl⟩
      | _ => exact hother

end RefusesOnly

namespace Numeric

/-! ## Specifications -/

namespace Spec

theorem refusesOnly_readNumber (text : List Char) : RefusesOnly (readNumber text) := by
  unfold readNumber
  split
  split
  · exact .pure _
  · exact .ite (.pure _) (.throw rfl rfl)
  · exact .throw rfl rfl

theorem refusesOnly_readSeparator (text : List Char) : RefusesOnly (readSeparator text) :=
  .ite (.throw rfl rfl) (.ite (.throw rfl rfl) (.pure _))

theorem refusesOnly_readPrecision (text : List Char) : RefusesOnly (readPrecision text) := by
  refine .ite ?_ (.pure _)
  refine .bind (refusesOnly_readNumber _) ?_
  intro number
  exact .ite (.throw rfl rfl) (.pure _)

theorem refusesOnly_separatorFor (mark type : Option Char) :
    RefusesOnly (separatorFor mark type) := by
  unfold separatorFor
  split
  · exact .pure _
  · split
    · exact .pure _
    · exact .ite (.pure _) (.ite (.pure _) (.throw rfl rfl))

theorem refusesOnly_read (align : Align) (type : Option Char) (text : List Char) :
    RefusesOnly (read align type text) := by
  refine .bind (refusesOnly_readNumber _) fun width => ?_
  refine .bind (refusesOnly_readSeparator _) fun separator => ?_
  refine .bind (refusesOnly_readPrecision _) fun precision => ?_
  dsimp only
  split
  · exact .bind (.pure _) fun type => .bind (refusesOnly_separatorFor _ _) fun _ => .pure _
  · exact .bind (.pure _) fun type => .bind (refusesOnly_separatorFor _ _) fun _ => .pure _
  · exact .bind (.throw rfl rfl) fun type => .bind (refusesOnly_separatorFor _ _) fun _ => .pure _

theorem refusesOnly_formatText (text spec : List Char) : RefusesOnly (formatText text spec) := by
  refine .ite (.pure _) ?_
  refine .bind (refusesOnly_read _ _ _) fun spec => ?_
  split
  · exact .throw rfl rfl
  · exact .pure _

end Spec

/-! ## Whole numbers and binary numbers -/

theorem refusesOnly_toBinary (n : Int) : RefusesOnly (toBinary n) := by
  unfold toBinary
  split
  · exact .pure _
  · exact .throw rfl rfl

namespace Binary64

theorem refusesOnly_styleOf (type : Option Char) (precision : Option Nat) :
    RefusesOnly (styleOf type precision) := by
  unfold styleOf
  dsimp only
  split
  all_goals first | exact .pure _ | exact .throw rfl rfl

theorem refusesOnly_formatSpec (spec : Numeric.Spec) (x : Binary64) :
    RefusesOnly (formatSpec spec x) := by
  refine .bind (refusesOnly_styleOf _ _) ?_
  intro style
  exact .ite (.throw rfl rfl) (.pure _)

theorem refusesOnly_format (spec : List Char) (x : Binary64) : RefusesOnly (format spec x) := by
  refine .ite (.pure _) ?_
  exact .bind (Spec.refusesOnly_read _ _ _) fun spec => refusesOnly_formatSpec spec x

end Binary64

theorem refusesOnly_formatCodePoint (spec : Spec) (n : Int) :
    RefusesOnly (formatCodePoint spec n) :=
  .ite (.throw rfl rfl) (.ite (.throw rfl rfl) (.ite (.throw rfl rfl) (.pure _)))

theorem refusesOnly_requireWhole (spec : Spec) : RefusesOnly (requireWhole spec) :=
  .ite (.throw rfl rfl) (.ite (.throw rfl rfl) (.pure _))

theorem refusesOnly_decimalDigits (n : Nat) : RefusesOnly (decimalDigits n) :=
  .ite (.throw rfl rfl) (.pure _)

theorem refusesOnly_integerText (n : Int) : RefusesOnly (integerText n) :=
  .bind (refusesOnly_decimalDigits _) fun _ => .pure _

theorem refusesOnly_formatDigits (spec : Spec) (base : Base) (n : Int) :
    RefusesOnly (formatDigits spec base n) := by
  refine .bind ?_ fun whole => .pure _
  exact .ite (refusesOnly_decimalDigits _) (.pure _)

theorem refusesOnly_formatInteger (spec : List Char) (n : Int) :
    RefusesOnly (formatInteger spec n) := by
  refine .ite (refusesOnly_integerText n) ?_
  refine .bind (Spec.refusesOnly_read _ _ _) fun spec => ?_
  refine .ite ?_ (.ite ?_ ?_)
  · exact .bind (refusesOnly_toBinary n) fun x => Binary64.refusesOnly_formatSpec spec x
  · exact .bind (refusesOnly_requireWhole spec) fun _ => refusesOnly_formatCodePoint spec n
  · split
    · exact .bind (refusesOnly_requireWhole spec) fun _ => refusesOnly_formatDigits spec _ n
    · exact .throw rfl rfl

/-! ## Decimal numbers -/

namespace Decimal

theorem refusesOnly_settled (negative : Bool) (coefficient : Nat) (exponent : Int) :
    RefusesOnly (settled negative coefficient exponent) :=
  .ite (.pure _) (.ite (.pure _) (.ite (.throw rfl rfl) (.pure _)))

theorem refusesOnly_passedOn (negative signaling : Bool) (payload : Nat) :
    RefusesOnly (passedOn negative signaling payload) :=
  .ite (.throw rfl rfl) (.pure _)

theorem refusesOnly_abs (d : Decimal) : RefusesOnly d.abs := by
  cases d with
  | finite negative coefficient exponent => exact refusesOnly_settled _ _ _
  | infinite negative => exact .pure _
  | nan negative signaling payload => exact refusesOnly_passedOn _ _ _

theorem refusesOnly_percent (d : Decimal) : RefusesOnly d.percent := by
  cases d with
  | finite negative coefficient exponent => exact refusesOnly_settled _ _ _
  | infinite negative => exact .pure _
  | nan negative signaling payload => exact refusesOnly_passedOn _ _ _

theorem refusesOnly_isBelowZero (d : Decimal) : RefusesOnly d.isBelowZero := by
  cases d with
  | finite negative coefficient exponent => exact .pure _
  | infinite negative => exact .pure _
  | nan negative signaling payload => exact .throw rfl rfl

theorem refusesOnly_unitExponent (places : Nat) : RefusesOnly (unitExponent places) :=
  .ite (.throw rfl rfl) (.pure _)

theorem refusesOnly_quantized (places : Nat) (d : Decimal) : RefusesOnly (d.quantized places) := by
  cases d with
  | finite negative coefficient exponent =>
      refine .bind (refusesOnly_unitExponent places) fun target => ?_
      exact .ite (.pure _) (.ite (.throw rfl rfl) (.ite (.throw rfl rfl) (.pure _)))
  | infinite negative => exact .throw rfl rfl
  | nan negative signaling payload => exact refusesOnly_passedOn _ _ _

theorem Spec.refusesOnly_readNumber (text : List Char) :
    RefusesOnly (Decimal.Spec.readNumber text) :=
  .ite (.pure _) (.ite (.pure _) (.throw rfl rfl))

theorem Spec.refusesOnly_read (text : List Char) : RefusesOnly (Decimal.Spec.read text) := by
  unfold Decimal.Spec.read
  rcases cutZeroMark text with ⟨dropZeroSign, text⟩
  dsimp only
  rcases Numeric.Spec.readAlign text with ⟨⟨fill, align, filled⟩, behind⟩
  dsimp only
  refine .ite (.throw rfl rfl) ?_
  refine .ite (.throw rfl rfl) ?_
  refine .ite (.throw rfl rfl) ?_
  refine .bind (refusesOnly_readNumber _) fun width => ?_
  split
  · refine .bind (refusesOnly_readNumber _) fun precision => ?_
    refine .ite (.throw rfl rfl) ?_
    split
    · exact .throw rfl rfl
    · exact .pure _
  · refine .bind (.pure _) fun precision => ?_
    refine .ite (.throw rfl rfl) ?_
    split
    · exact .throw rfl rfl
    · exact .pure _

theorem refusesOnly_format (spec : List Char) (d : Decimal) : RefusesOnly (format spec d) := by
  refine .ite (.pure _) ?_
  exact .bind (Spec.refusesOnly_read _) fun spec => .pure _

end Decimal

/-! ## Numbers of all kinds -/

namespace Number

theorem refusesOnly_text (number : Number) : RefusesOnly number.text := by
  cases number with
  | integer n => exact refusesOnly_integerText n
  | _ => exact .pure _

theorem refusesOnly_formatSpec (spec : List Char) (number : Number) :
    RefusesOnly (number.formatSpec spec) := by
  cases number with
  | boolean b => exact .ite (.pure _) (refusesOnly_formatInteger _ _)
  | integer n => exact refusesOnly_formatInteger _ _
  | binary x => exact Binary64.refusesOnly_format _ _
  | decimal d => exact Decimal.refusesOnly_format _ _

theorem refusesOnly_styled (layout : Layout) (style : Style) (capitals : Bool)
    (spec : Decimal.Spec) (number : Number) :
    RefusesOnly (number.styled layout style capitals spec) := by
  cases number with
  | boolean b => exact .bind (refusesOnly_toBinary _) fun x => .pure _
  | integer n => exact .bind (refusesOnly_toBinary _) fun x => .pure _
  | binary x => exact .pure _
  | decimal d => exact .pure _

theorem refusesOnly_fixed (commas : Bool) (places : Nat) (number : Number) :
    RefusesOnly (number.fixed commas places) :=
  refusesOnly_styled _ _ _ _ number

theorem refusesOnly_abs (number : Number) : RefusesOnly number.abs := by
  cases number with
  | decimal d => exact .bind (Decimal.refusesOnly_abs d) fun d => .pure _
  | _ => exact .pure _

theorem refusesOnly_isBelowZero (number : Number) : RefusesOnly number.isBelowZero := by
  cases number with
  | decimal d => exact Decimal.refusesOnly_isBelowZero d
  | _ => exact .pure _

theorem refusesOnly_percent (number : Number) : RefusesOnly number.percent := by
  cases number with
  | decimal d => exact .bind (Decimal.refusesOnly_percent d) fun d => .pure _
  | _ => exact .pure _

end Number

/-! ## Standard formats and pictures -/

namespace StandardFormat

theorem refusesOnly_requireInteger (format : StandardFormat) (number : Number) :
    RefusesOnly (format.requireInteger number) := by
  cases number with
  | boolean b => exact .pure _
  | integer n => exact .pure _
  | binary x => exact .throw rfl rfl
  | decimal d => exact .throw rfl rfl

theorem refusesOnly_formatCurrency (format : StandardFormat) (number : Number) :
    RefusesOnly (format.formatCurrency number) := by
  refine .bind (Number.refusesOnly_abs number) fun magnitude => ?_
  refine .bind (Number.refusesOnly_fixed true format.places magnitude) fun body => ?_
  exact .bind (Number.refusesOnly_isBelowZero number) fun below => .pure _

theorem refusesOnly_formatDecimal (format : StandardFormat) (n : Int) :
    RefusesOnly (format.formatDecimal n) :=
  .bind (refusesOnly_decimalDigits _) fun _ => .pure _

theorem refusesOnly_formatHexadecimal (format : StandardFormat) (n : Int) :
    RefusesOnly (format.formatHexadecimal n) :=
  .ite (.throw rfl rfl) (.pure _)

theorem refusesOnly_apply (format : StandardFormat) (number : Number) :
    RefusesOnly (format.apply number) := by
  unfold apply
  cases format.form with
  | currency => exact refusesOnly_formatCurrency format number
  | decimal =>
      refine .bind (refusesOnly_requireInteger format number) fun n => ?_
      exact refusesOnly_formatDecimal format n
  | exponential => exact .bind (Number.refusesOnly_styled _ _ _ _ number) fun text => .pure _
  | fixed => exact Number.refusesOnly_fixed _ _ number
  | general =>
      cases format.precision with
      | none => exact Number.refusesOnly_text number
      | some count => exact Number.refusesOnly_styled _ _ _ _ number
  | grouped => exact Number.refusesOnly_fixed _ _ number
  | percent =>
      refine .bind (Number.refusesOnly_percent number) fun hundredths => ?_
      exact .bind (Number.refusesOnly_fixed true format.places hundredths) fun text => .pure _
  | plain => exact Number.refusesOnly_text number
  | hexadecimal =>
      refine .bind (refusesOnly_requireInteger format number) fun n => ?_
      exact refusesOnly_formatHexadecimal format n

end StandardFormat

namespace Picture

theorem refusesOnly_toDecimal (number : Number) : RefusesOnly (toDecimal number) := by
  unfold toDecimal
  split
  · exact .throw rfl rfl
  · exact .bind (refusesOnly_integerText _) fun _ => .pure _
  all_goals exact .pure _

theorem refusesOnly_rounded (picture : Picture) (number : Number) :
    RefusesOnly (picture.rounded number) := by
  refine .bind (refusesOnly_toDecimal number) fun d => ?_
  split
  · refine .bind (Decimal.refusesOnly_percent d) fun d => ?_
    exact Decimal.refusesOnly_quantized picture.places d
  · exact Decimal.refusesOnly_quantized picture.places d

theorem refusesOnly_display (picture : Picture) (d : Decimal) :
    RefusesOnly (picture.display d) := by
  cases d with
  | finite negative n exponent => exact .pure _
  | infinite negative => exact .throw rfl rfl
  | nan negative signaling payload => exact .throw rfl rfl

theorem refusesOnly_apply (picture : Picture) (number : Number) :
    RefusesOnly (picture.apply number) := by
  unfold apply
  split
  · exact .throw rfl rfl
  · exact .throw rfl rfl
  · exact .bind (refusesOnly_rounded picture number) fun d => refusesOnly_display picture d

end Picture

/-- A format that does not apply to a number is refused, whatever the format and the number are. -/
theorem refusesOnly_format (number : Number) (format : String) :
    RefusesOnly (number.format format) := by
  refine .map _ ?_
  split
  · exact StandardFormat.refusesOnly_apply _ number
  · split
    · exact Picture.refusesOnly_apply _ number
    · exact Number.refusesOnly_formatSpec _ number

end Numeric

end Stencil
