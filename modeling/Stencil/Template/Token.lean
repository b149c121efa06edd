import Stencil.Template.Grammar
import Stencil.Template.Segment
import Stencil.Text.Occurrence

/-!
# Tokens

The body of a token stands for a segment, or for nothing:

* the closing word closes a scope;
* the keyword, blanks and a name open a scope on that name, whatever follows the name;
* any other body shows a value. After blanks it starts with a path, which runs up to the first blank or
  quote. The text between the first two quotes after it is the format; if the second quote is missing, the
  format runs to the end.

A body of blanks stands for nothing, and so does one that has a quote where its path should be.
-/

namespace Stencil

/-- The quote around formats. -/
def quoteMark : Char := '"'

/-- The reading of the body of a token. -/
inductive Reading
  | segment (segment : Segment)
  | blank
  | noPath
  deriving DecidableEq

/-- The characters of the name of a scope. -/
def isScopeNameChar (c : Char) : Bool :=
  !Text.isBlank c && c ≠ '.' && c ≠ quoteMark

def isPathChar (c : Char) : Bool :=
  !Text.isBlank c && c ≠ quoteMark

/-- The parts of a text between the points in it; there is always at least one part. -/
def splitAtPoints : List Char → List (List Char)
  | [] => [[]]
  | c :: text =>
      if c = '.' then [] :: splitAtPoints text
      else match splitAtPoints text with
        | part :: parts => (c :: part) :: parts
        | [] => [[c]]

/-- The format in what follows a path. -/
def readFormat? (text : List Char) : Option (List Char) :=
  match text.dropWhile (· ≠ quoteMark) with
  | [] => none
  | _ :: rest => some (rest.takeWhile (· ≠ quoteMark))

/-- The path of a body and its format. -/
def readValue (body : List Char) : Reading :=
  let stripped := Text.dropBlanks body
  let path := stripped.takeWhile isPathChar
  if stripped.isEmpty then .blank
  else if path.isEmpty then .noPath
  else .segment (.value ((splitAtPoints path).map String.ofList)
    ((readFormat? (stripped.dropWhile isPathChar)).map String.ofList))

namespace Grammar

/-- The name of the scope that a body opens. -/
def scopeName? (g : Grammar) (body : List Char) : Option (List Char) :=
  if g.keyword.isPrefixOf body then
    let rest := body.drop g.keyword.length
    let name := (Text.dropBlanks rest).takeWhile isScopeNameChar
    if (rest.takeWhile Text.isBlank).isEmpty || name.isEmpty then none else some name
  else none

/-- Reads the body of a token. -/
def readToken (g : Grammar) (body : List Char) : Reading :=
  if body = g.closer then .segment .scopeClose
  else match g.scopeName? body with
    | some name => .segment (.scopeOpen (String.ofList name))
    | none => readValue body

end Grammar

end Stencil
