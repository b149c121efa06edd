import Stencil.Fault
import Stencil.Text.Blank

/-!
# The grammar of templates

A grammar fixes how tokens stand out from the text of a template: by an opening and a closing mark, and
by the keyword of scopes. A new grammar has marks of one character each, which differ, and a keyword that
is neither empty nor holds blanks. Later the marks and the closing word may be set to any text.
-/

namespace Stencil

/-- The marks around tokens, the word that opens a scope, and the text of the token that closes one. -/
structure Grammar where
  opening : List Char
  closing : List Char
  keyword : List Char
  closer : List Char
  deriving DecidableEq

/-- What a keyword looks like. -/
def isKeyword (keyword : String) : Bool :=
  keyword ≠ "" && !keyword.toList.any Text.isBlank

namespace Grammar

/-- The grammar with these marks and this keyword. A scope is closed by the keyword after a slash. -/
def make (opening closing keyword : String) : Except Fault Grammar :=
  if opening.length ≠ 1 ∨ closing.length ≠ 1 then throw .delimiterLength
  else if opening = closing then throw .delimitersEqual
  else if !isKeyword keyword then throw .keywordShape
  else pure {
    opening := opening.toList
    closing := closing.toList
    keyword := keyword.toList
    closer := '/' :: keyword.toList }

end Grammar

end Stencil
