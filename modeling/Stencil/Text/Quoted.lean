import Stencil.Text.Printable

/-!
# Quoted text

Messages show a text between quotation marks. The mark is the apostrophe, unless the text holds an
apostrophe and no double mark. Inside, the mark and the backslash are escaped, tabulator, line feed and
carriage return have short escapes, and every other character without a visible form is written as its
code point in two, four or eight hexadecimal digits. Bytes are quoted in the same way, with every byte
outside the visible part of ASCII written in hexadecimal.
-/

namespace Stencil
namespace Text

/-- A number in lower-case hexadecimal digits, filled with zeros up to a width. -/
def hexadecimal (width n : Nat) : List Char :=
  List.leftpad width '0' (Nat.toDigits 16 n)

/-- The mark that encloses a text. -/
def quotationMark (text : List Char) : Char :=
  if text.contains '\'' && !text.contains '"' then '"' else '\''

/-- The short escapes, which texts and bytes share. -/
def shortEscape? (mark c : Char) : Option (List Char) :=
  if c = mark || c = '\\' then some ['\\', c]
  else if c = '\t' then some ['\\', 't']
  else if c = '\n' then some ['\\', 'n']
  else if c = '\r' then some ['\\', 'r']
  else none

/-- The code point of a character, in as many digits as its size calls for. -/
def codeEscape (c : Char) : List Char :=
  let n := c.toNat
  if n < 0x100 then '\\' :: 'x' :: hexadecimal 2 n
  else if n < 0x10000 then '\\' :: 'u' :: hexadecimal 4 n
  else '\\' :: 'U' :: hexadecimal 8 n

/-- One character of a text as it stands between quotation marks. -/
def escapeChar (mark c : Char) : List Char :=
  (shortEscape? mark c).getD (if isPrintable c then [c] else codeEscape c)

/-- A text between quotation marks. -/
def quoted (text : String) : String :=
  let mark := quotationMark text.toList
  String.ofList (mark :: text.toList.flatMap (escapeChar mark) ++ [mark])

/-- The character stands for itself between quotation marks: it is visible, in ASCII, and neither the
apostrophe nor the backslash. -/
def isVerbatim (c : Char) : Bool :=
  0x20 ≤ c.toNat && c.toNat < 0x7F && c ≠ '\'' && c ≠ '\\'

theorem escapeChar_of_isVerbatim {c : Char} (h : isVerbatim c = true) : escapeChar '\'' c = [c] := by
  simp only [isVerbatim, Bool.and_eq_true, decide_eq_true_eq] at h
  obtain ⟨⟨⟨hfrom, hto⟩, hmark⟩, hbackslash⟩ := h
  have hcontrol : ∀ control : Char, control.toNat < 0x20 → c ≠ control := by
    rintro control hlow rfl
    omega
  have hshort : shortEscape? '\'' c = none := by
    simp [shortEscape?, hmark, hbackslash, hcontrol '\t' (by decide), hcontrol '\n' (by decide),
      hcontrol '\r' (by decide)]
  rw [escapeChar, hshort, isPrintable_of_visible hfrom hto]
  rfl

/-- A text of characters that stand for themselves is quoted as it is. -/
theorem quoted_of_isVerbatim {text : String} (h : text.toList.all isVerbatim = true) :
    quoted text = "'" ++ text ++ "'" := by
  have hmark : quotationMark text.toList = '\'' := by
    have hnone : '\'' ∉ text.toList := fun hmem => absurd (List.all_eq_true.mp h '\'' hmem) (by decide)
    simp [quotationMark, hnone]
  have hbody : ∀ chars : List Char, chars.all isVerbatim = true →
      chars.flatMap (escapeChar '\'') = chars := by
    intro chars hchars
    induction chars with
    | nil => rfl
    | cons c chars ih =>
        rw [List.all_cons, Bool.and_eq_true] at hchars
        rw [List.flatMap_cons, escapeChar_of_isVerbatim hchars.1, ih hchars.2, List.singleton_append]
  rw [← String.toList_inj, quoted, hmark, hbody _ h]
  simp

/-- One byte as it stands between quotation marks. -/
def escapeByte (mark : Char) (b : UInt8) : List Char :=
  let c := Char.ofNat b.toNat
  (shortEscape? mark c).getD (if 0x20 ≤ b && b < 0x7F then [c] else codeEscape c)

/-- Bytes between quotation marks, after the letter that tells them from text. -/
def quotedBytes (bytes : List UInt8) : String :=
  let mark := quotationMark (bytes.map fun b => Char.ofNat b.toNat)
  String.ofList ('b' :: mark :: bytes.flatMap (escapeByte mark) ++ [mark])

end Text
end Stencil
