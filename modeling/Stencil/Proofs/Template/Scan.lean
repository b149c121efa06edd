import Stencil.Proofs.Text.Occurrence
import Stencil.Template.Scan

/-!
# Where the tokens of a text stand

A scan is compared with the places of the marks in the text.

* `Grammar.FirstToken` says in terms of places what the first token of a text is; `Grammar.cut_eq_token`,
  `Grammar.cut_eq_plain` and `Grammar.cut_eq_unterminated` read it off a cut.
* `Grammar.Tokens` lists the tokens of a whole text, each one the first of what the tokens before it leave.
* `Grammar.exists_tokens_scanFrom`: a scan gives the pieces of the text at such a list of places, with the
  text between the tokens as literals (`piecesAt`).

All of this holds for marks of any length, as long as the opening mark is not empty.
-/

namespace Stencil

open Text (OccursAt)

/-- The part of a text from the place `start` up to the place `stop`. -/
def slice (text : List Char) (start stop : Nat) : List Char :=
  (text.take stop).drop start

/-- A text in pieces, from the place `start` on: a token at each of the given pairs of places, which are
those of its marks, and between the tokens the literal text. -/
def piecesAt (text : List Char) (start : Nat) : List (Nat × Nat) → List Piece
  | [] => [.literal (text.drop start)]
  | (s, e) :: spans =>
      .literal (slice text start s) :: .token (slice text (s + 1) e) :: piecesAt text (e + 1) spans

/-- A pair of places, moved to the right. -/
def shiftedBy (k : Nat) (span : Nat × Nat) : Nat × Nat :=
  (k + span.1, k + span.2)

theorem slice_drop (text : List Char) (k start stop : Nat) :
    slice (text.drop k) start stop = slice text (k + start) (k + stop) := by
  unfold slice
  rw [List.take_drop, List.drop_drop]

theorem piecesAt_drop (text : List Char) (k start : Nat) (spans : List (Nat × Nat)) :
    piecesAt (text.drop k) start spans = piecesAt text (k + start) (spans.map (shiftedBy k)) := by
  induction spans generalizing start with
  | nil =>
      simp [piecesAt]
  | cons span spans ih =>
      obtain ⟨s, e⟩ := span
      simp only [piecesAt, List.map_cons, shiftedBy, slice_drop, ih]
      rfl

namespace Grammar

variable {g : Grammar} {text : List Char}

/-- The first token of a text has its marks at the places `s` and `e`; `first` is the place of the first
opening mark. The token ends at the first closing mark behind `first`, and it starts at the last opening
mark that still fits in front of that. -/
structure FirstToken (g : Grammar) (text : List Char) (first s e : Nat) : Prop where
  first_le : first ≤ s
  lt : s < e
  no_earlier : ∀ i, i < first → ¬ OccursAt g.opening text i
  opens : OccursAt g.opening text s
  closes : OccursAt g.closing text e
  no_close : ∀ i, first < i → i < e → ¬ OccursAt g.closing text i
  no_reopen : ∀ i, s < i → i + g.opening.length ≤ e → ¬ OccursAt g.opening text i

theorem cut_eq_plain (h : g.cut text = .plain) (i : Nat) : ¬ OccursAt g.opening text i := by
  unfold cut at h
  split at h
  · next hnone => exact Text.firstOccurrence?_eq_none_iff.mp hnone i
  · simp only at h
    split at h
    · cases h
    · split at h <;> cases h

theorem cut_eq_unterminated {first : Nat} (h : g.cut text = .unterminated first) :
    OccursAt g.opening text first ∧ (∀ i, i < first → ¬ OccursAt g.opening text i) ∧
      ∀ i, first < i → ¬ OccursAt g.closing text i := by
  unfold cut at h
  split at h
  · cases h
  · next start hsome =>
      obtain ⟨hopens, hfirst⟩ := Text.firstOccurrence?_eq_some_iff.mp hsome
      simp only at h
      split at h
      · next hnone =>
          cases h
          exact ⟨hopens, hfirst, Text.firstOccurrence?_drop_eq_none hnone⟩
      · split at h <;> cases h

/-- The first token of a text, the text in front of it and the text behind it. -/
theorem cut_eq_token {literal body rest : List Char} (hopening : g.opening ≠ [])
    (h : g.cut text = .token literal body rest) :
    ∃ first s e, g.FirstToken text first s e ∧
      literal = slice text 0 s ∧ body = slice text (s + 1) e ∧ rest = text.drop (e + 1) := by
  unfold cut at h
  split at h
  · cases h
  · next first hsome =>
      obtain ⟨hopens, hfirst⟩ := Text.firstOccurrence?_eq_some_iff.mp hsome
      have hpos : 0 < g.opening.length := List.length_pos_iff.mpr hopening
      have hlen : first + 1 ≤ text.length := Nat.le_trans (by omega) hopens.add_length_le
      simp only at h
      split at h
      · cases h
      · next close hclose =>
          obtain ⟨hcloses, hnoClose⟩ := Text.firstOccurrence?_drop_eq_some hlen hclose
          split at h
          · next reopen hreopen =>
              cases h
              obtain ⟨hopens', hfits, hlast⟩ :=
                Text.lastOccurrence?_window_eq_some hcloses.1 hreopen
              refine ⟨first, first + 1 + reopen, first + 1 + close, ?_, ?_, ?_, ?_⟩
              · exact ⟨by omega, by omega, hfirst, hopens', hcloses, hnoClose, hlast⟩
              · simp [slice]
              · rw [List.take_drop, List.drop_drop]
                rfl
              · rw [List.drop_drop]
                rfl
          · next hreopen =>
              cases h
              have hnone := Text.lastOccurrence?_window_eq_none hcloses.1 hreopen
              refine ⟨first, first, first + 1 + close, ?_, ?_, ?_, ?_⟩
              · exact ⟨by omega, by omega, hfirst, hopens, hcloses, hnoClose, hnone⟩
              · simp [slice]
              · rw [List.take_drop]
                rfl
              · rw [List.drop_drop]
                rfl

/-- The tokens of a text, from left to right, by the places of their marks: each token is the first one of
what the tokens before it leave of the text. -/
inductive Tokens (g : Grammar) : List Char → List (Nat × Nat) → Prop
  | plain {text : List Char} (h : ∀ i, ¬ OccursAt g.opening text i) : Tokens g text []
  | unterminated {text : List Char} {first : Nat}
      (hfirst : ∀ i, i < first → ¬ OccursAt g.opening text i)
      (hclosed : ∀ i, first < i → ¬ OccursAt g.closing text i) : Tokens g text []
  | token {text : List Char} {first s e : Nat} {spans : List (Nat × Nat)}
      (hfirst : g.FirstToken text first s e)
      (hrest : Tokens g (text.drop (e + 1)) spans) :
      Tokens g text ((s, e) :: spans.map (shiftedBy (e + 1)))

/-- A scan cuts a text at its tokens; only an empty literal at the end may be missing. -/
theorem exists_tokens_scanFrom (hopening : g.opening ≠ []) (total : Nat) (text : List Char) :
    ∃ spans, g.Tokens text spans ∧
      ∃ missing, piecesAt text 0 spans = (g.scanFrom total text).pieces ++ missing ∧
        ∀ piece, piece ∈ missing → piece = .literal [] := by
  fun_induction scanFrom g total text with
  | case1 =>
      refine ⟨[], .plain ?_, [.literal []], rfl, by simp⟩
      intro i hoccurs
      exact hopening ((Text.occursAt_nil_iff i).mp hoccurs).2
  | case2 text hne hcut =>
      exact ⟨[], .plain (cut_eq_plain hcut), [], rfl, by simp⟩
  | case3 text hne first hcut =>
      obtain ⟨_, hfirst, hclosed⟩ := cut_eq_unterminated hcut
      exact ⟨[], .unterminated hfirst hclosed, [], rfl, by simp⟩
  | case4 text hne literal body rest hcut later ih =>
      obtain ⟨first, s, e, hfirst, rfl, rfl, rfl⟩ := cut_eq_token hopening hcut
      obtain ⟨spans, htokens, missing, hpieces, hmissing⟩ := ih
      refine ⟨_, .token hfirst htokens, missing, ?_, hmissing⟩
      rw [piecesAt_drop, Nat.add_zero] at hpieces
      simp only [piecesAt, hpieces, List.cons_append]
      rfl

/-- Tokens do not overlap. -/
theorem Tokens.pairwise {spans : List (Nat × Nat)} (h : g.Tokens text spans) :
    spans.Pairwise fun p q => p.2 < q.1 := by
  induction h with
  | plain => exact .nil
  | unterminated => exact .nil
  | @token text first s e spans hfirst _ ih =>
      rw [List.pairwise_cons]
      constructor
      · intro q hq
        obtain ⟨p, _, rfl⟩ := List.mem_map.mp hq
        simp only [shiftedBy]
        omega
      · rw [List.pairwise_map]
        refine ih.imp ?_
        intro p q hpq
        simp only [shiftedBy]
        omega

end Grammar

end Stencil
