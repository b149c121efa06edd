import Stencil.Text.CharRange

/-!
# Blank characters

Blanks separate the parts of a token, may not occur in a scope keyword, and are dropped at the start of
a token. The class holds the white space of all scripts and the four separators of the ASCII control
range, 29 characters in all.
-/

namespace Stencil
namespace Text

def blankRanges : CharRanges := [
    (0x0009, 0x000D), (0x001C, 0x0020), (0x0085, 0x0085), (0x00A0, 0x00A0), (0x1680, 0x1680),
    (0x2000, 0x200A), (0x2028, 0x2029), (0x202F, 0x202F), (0x205F, 0x205F), (0x3000, 0x3000)]

/-- White space of any script. -/
def isBlank (c : Char) : Bool :=
  blankRanges.has c

def dropBlanks (text : List Char) : List Char :=
  text.dropWhile isBlank

theorem dropBlanks_cons_of_blank {c : Char} (h : isBlank c = true) (text : List Char) :
    dropBlanks (c :: text) = dropBlanks text := by
  simp [dropBlanks, h]

theorem dropBlanks_cons_of_not_blank {c : Char} (h : isBlank c = false) (text : List Char) :
    dropBlanks (c :: text) = c :: text := by
  simp [dropBlanks, h]

end Text
end Stencil
