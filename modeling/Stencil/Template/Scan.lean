import Stencil.Template.Grammar
import Stencil.Text.Occurrence

/-!
# Scanning a template

A scan cuts a text into literal pieces and the bodies of tokens. A token ends at the first closing mark
after an opening mark, and it starts at the last opening mark before that; an earlier one is text. An
opening mark that no closing mark follows makes the rest of the text literal, and its place is reported.

One character is stepped over for each mark, also where a mark has been set to a text of another length.
-/

namespace Stencil

/-- A piece of a scanned text. -/
inductive Piece
  | literal (text : List Char)
  | token (body : List Char)
  deriving DecidableEq

/-- A scanned text: its pieces, and the place of the opening mark that is never closed. -/
structure Scanned where
  pieces : List Piece
  unterminated : Option Nat
  deriving DecidableEq

/-- What stands at the start of a text: a token after some literal text, literal text only, or literal
text with an unterminated token in it. -/
inductive Cut
  | plain
  | unterminated (offset : Nat)
  | token (literal body rest : List Char)
  deriving DecidableEq

namespace Grammar

/-- Finds the first token of a text. -/
def cut (g : Grammar) (text : List Char) : Cut :=
  match Text.firstOccurrence? g.opening text with
  | none => .plain
  | some start =>
      let tail := text.drop (start + 1)
      match Text.firstOccurrence? g.closing tail with
      | none => .unterminated start
      | some close =>
          let inner := tail.take close
          match Text.lastOccurrence? g.opening inner with
          | some reopen =>
              .token (text.take (start + 1 + reopen)) (inner.drop (reopen + 1)) (tail.drop (close + 1))
          | none => .token (text.take start) inner (tail.drop (close + 1))

theorem length_rest_lt_of_cut {g : Grammar} {text literal body rest : List Char}
    (h : g.cut text = .token literal body rest) : rest.length < text.length ∨ text = [] := by
  rcases text with _ | ⟨c, text⟩
  · exact .inr rfl
  · left
    unfold cut at h
    split at h
    · cases h
    · simp only at h
      split at h
      · cases h
      · split at h <;> cases h <;> simp only [List.length_drop, List.length_cons] <;> omega

/-- Scans the rest of a template that has `total` characters. -/
def scanFrom (g : Grammar) (total : Nat) (text : List Char) : Scanned :=
  if _ : text = [] then ⟨[], none⟩
  else
    match _h : g.cut text with
    | .plain => ⟨[.literal text], none⟩
    | .unterminated start => ⟨[.literal text], some (total - text.length + start)⟩
    | .token literal body rest =>
        let later := g.scanFrom total rest
        ⟨.literal literal :: .token body :: later.pieces, later.unterminated⟩
termination_by text.length
decreasing_by
  rcases length_rest_lt_of_cut _h with h | h
  · exact h
  · contradiction

def scan (g : Grammar) (template : String) : Scanned :=
  g.scanFrom template.length template.toList

end Grammar

end Stencil
