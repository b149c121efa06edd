import Stencil.Fault
import Stencil.Numeric.Layout
import Stencil.Text.Digit

/-!
# Format specifications

A specification is a short text of optional parts in a fixed order:

`[[fill]align][sign][z][#][0][width][,][_][.precision][type]`

This module reads such a text. Which parts a value accepts is decided where values of its type are
formatted. Width and precision may be written in the digits of any script.
-/

namespace Stencil
namespace Numeric

/-- The parts of a specification. -/
structure Spec where
  fill : Char := ' '
  align : Align := .right
  sign : Option SignStyle := none
  dropZeroSign : Bool := false
  alternate : Bool := false
  width : Option Nat := none
  separator : Option Separator := none
  precision : Option Nat := none
  type : Option Char := none
  deriving DecidableEq

namespace Spec

/-- Widths and precisions from here on are refused. -/
def numberLimit : Nat := 2 ^ (63 : Nat)

/-- A number at the start of a text, if there is one, and what follows it. -/
def readNumber (text : List Char) : Except Fault (Option Nat × List Char) := do
  let (run, rest) := text.span Text.isDecimalDigit
  match run, Text.decimalNumber? run with
  | [], _ => pure (none, rest)
  | _, some n => if n < numberLimit then pure (some n, rest) else throw (.specRefused .numberTooLong)
  | _, none => throw (.specRefused .numberTooLong)

/-- Fill character and alignment; the last part says whether a fill character was given, and the
alignment is absent if none was given. -/
def readAlign (text : List Char) : (Char × Option Align × Bool) × List Char :=
  match text with
  | fill :: mark :: rest =>
      match Align.ofChar? mark, Align.ofChar? fill with
      | some align, _ => ((fill, some align, true), rest)
      | none, some align => ((' ', some align, false), mark :: rest)
      | none, none => ((' ', none, false), text)
  | [mark] => ((' ', Align.ofChar? mark, false), if (Align.ofChar? mark).isSome then [] else text)
  | [] => ((' ', none, false), [])

/-- A character at the start of a text, if it is the one that is asked for. -/
def readFlag (flag : Char) : List Char → Bool × List Char
  | c :: rest => if c = flag then (true, rest) else (false, c :: rest)
  | [] => (false, [])

/-- The sign style at the start of a text. -/
def readSignStyle : List Char → Option SignStyle × List Char
  | c :: rest => match SignStyle.ofChar? c with
      | some style => (some style, rest)
      | none => (none, c :: rest)
  | [] => (none, [])

/-- The marks between groups: a comma or an underscore, but not both. -/
def readSeparator (text : List Char) : Except Fault (Option Char × List Char) := do
  let (comma, rest) := readFlag ',' text
  let (underscore, rest) := readFlag '_' rest
  if comma && underscore then throw (.specRefused .twoSeparators)
  else if underscore && rest.head? = some ',' then throw (.specRefused .twoSeparators)
  else pure (if comma then some ',' else if underscore then some '_' else none, rest)

/-- The precision after its point, which must be followed by a number. -/
def readPrecision (text : List Char) : Except Fault (Option Nat × List Char) := do
  let (point, rest) := readFlag '.' text
  if point then
    let (precision, rest) ← readNumber rest
    if precision.isNone then throw (.specRefused .precisionMissing) else pure (precision, rest)
  else pure (none, rest)

/-- The separator for a type: groups have three digits in decimal numbers, and four in numbers to another
base, where only the underscore is used. -/
def separatorFor (mark : Option Char) (type : Option Char) : Except Fault (Option Separator) :=
  match mark with
  | none => pure none
  | some mark =>
      match type with
      | none => pure (some ⟨mark, 3⟩)
      | some c =>
          if c ∈ ['d', 'e', 'f', 'g', 'E', 'F', 'G', '%', '\x00'] then pure (some ⟨mark, 3⟩)
          else if mark = '_' && c ∈ ['b', 'o', 'x', 'X'] then pure (some ⟨mark, 4⟩)
          else throw (.specRefused (.separatorUnfit mark c))

/-- Reads a specification. A zero in front of the width fills with zeros, behind the sign where text
stands at the right by default. `defaultType` is the type of a specification that names none. -/
def read (defaultAlign : Align) (defaultType : Option Char) (text : List Char) : Except Fault Spec := do
  let whole := text
  let ((fill, align, filled), text) := readAlign text
  let (sign, text) := readSignStyle text
  let (dropZeroSign, text) := readFlag 'z' text
  let (alternate, text) := readFlag '#' text
  let (zero, text) := if filled then (false, text) else readFlag '0' text
  let (width, text) ← readNumber text
  let (mark, text) ← readSeparator text
  let (precision, text) ← readPrecision text
  let type ← match text with
    | [] => pure defaultType
    | [c] => pure (some c)
    | _ => throw (.specRefused (.malformed (String.ofList whole)))
  let separator ← separatorFor mark type
  pure {
    fill := if zero then '0' else fill
    align := align.getD (if zero && defaultAlign = .right then .inner else defaultAlign)
    sign, dropZeroSign, alternate, width, separator, precision, type }

/-- The field of a number under a specification. -/
def layout (spec : Spec) : Layout where
  fill := spec.fill
  align := spec.align
  sign := spec.sign.getD .minusOnly
  width := spec.width.getD 0
  separator := spec.separator
  zeroFilled := spec.fill = '0' && spec.align = .inner

/-! ## Text under a specification -/

/-- Why a text does not take a specification: it is for another type, or has a part for numbers. -/
def refusalOfText? (spec : Spec) : Option Refusal :=
  match spec.type, spec.sign with
  | some 's', some .space => some .textWithSpace
  | some 's', some _ => some .textWithSign
  | some 's', none =>
      if spec.dropZeroSign then some .textWithZeroSign
      else if spec.alternate then some .textWithAlternate
      else if spec.align = .inner then some .textWithInnerAlign
      else none
  | type, _ => some (.unknownType (type.getD 's'))

/-- A text in its field. A precision cuts it; the parts for numbers are refused. -/
def formatText (text spec : List Char) : Except Fault (List Char) := do
  if spec.isEmpty then return text
  let spec ← read .left (some 's') spec
  match spec.refusalOfText? with
  | some refusal => throw (.specRefused refusal)
  | none =>
      let shown := match spec.precision with
        | some n => text.take n
        | none => text
      pure (spec.layout.place [] shown)

end Spec

end Numeric
end Stencil
