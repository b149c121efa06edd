import Stencil.Proofs.Template.Joining
import Stencil.Proofs.Template.Marks

/-!
# What a template is read as

Parsing scans a template, reads the bodies of its tokens and joins its literals (`Grammar.result_parse`).
For marks of one character the scan is described by `tokenSpans`, and so the segments of a template are
described without any scan: they are those of its pieces at the token places, joined
(`Grammar.parse_joins_pieces_at_tokens`). The pieces are the whole template, in order (`written_piecesAt`).
-/

namespace Stencil

section Pieces

variable {opening closing : Char} {text : List Char}

def Piece.written (opening closing : Char) : Piece → List Char
  | .literal text => text
  | .token body => opening :: (body ++ [closing])

theorem slice_append_drop {start stop : Nat} (h : start ≤ stop) :
    slice text start stop ++ text.drop stop = text.drop start := by
  unfold slice
  conv_rhs => rw [← List.take_append_drop stop text]
  rcases Nat.lt_or_ge stop text.length with hin | hout
  · rw [List.drop_append_of_le_length]
    rw [List.length_take]
    omega
  · rw [List.drop_eq_nil_of_le hout, List.append_nil, List.append_nil]

/-- A text from a place on, up to a mark, with the mark, and from behind it on. -/
theorem slice_append_cons_drop {start stop : Nat} {c : Char} (h : start ≤ stop)
    (hc : text[stop]? = some c) :
    slice text start stop ++ c :: text.drop (stop + 1) = text.drop start := by
  obtain ⟨hlt, hget⟩ := List.getElem?_eq_some_iff.mp hc
  rw [← slice_append_drop h, List.drop_eq_getElem_cons hlt, hget]

/-- The pieces between some places, with a mark put back at each of them, are the whole text, in order. -/
theorem written_piecesAt {start : Nat} {spans : List (Nat × Nat)}
    (hmarks : ∀ span, span ∈ spans →
      span.1 < span.2 ∧ text[span.1]? = some opening ∧ text[span.2]? = some closing)
    (hstart : ∀ span, span ∈ spans → start ≤ span.1)
    (hpairwise : spans.Pairwise fun p q => p.2 < q.1) :
    (piecesAt text start spans).flatMap (Piece.written opening closing) = text.drop start := by
  induction spans generalizing start with
  | nil =>
      simp [piecesAt, Piece.written]
  | cons span spans ih =>
      obtain ⟨s, e⟩ := span
      obtain ⟨hlt, hs, he⟩ := hmarks (s, e) List.mem_cons_self
      have hle : start ≤ s := hstart (s, e) List.mem_cons_self
      rw [List.pairwise_cons] at hpairwise
      have hrest : (piecesAt text (e + 1) spans).flatMap (Piece.written opening closing) =
          text.drop (e + 1) := by
        refine ih ?_ hpairwise.1 hpairwise.2
        intro span hspan
        exact hmarks span (List.mem_cons_of_mem _ hspan)
      have hbody : slice text (s + 1) e ++ closing :: text.drop (e + 1) = text.drop (s + 1) :=
        slice_append_cons_drop hlt he
      calc
        (piecesAt text start ((s, e) :: spans)).flatMap (Piece.written opening closing)
            = slice text start s ++
                opening :: (slice text (s + 1) e ++ closing :: text.drop (e + 1)) := by
              simp [piecesAt, Piece.written, hrest]
        _ = text.drop start := by
              rw [hbody, slice_append_cons_drop hle hs]

end Pieces

namespace Grammar

variable {g : Grammar} {opening closing : Char}

theorem pairwise_tokenSpans (hm : g.HasMarks opening closing) (text : List Char) :
    (tokenSpans opening closing text).Pairwise fun p q => p.2 < q.1 := by
  obtain ⟨spans, htokens, _⟩ := exists_tokens_scanFrom hm.opening_ne_nil 0 text
  rw [← htokens.eq_tokenSpans hm]
  exact htokens.pairwise

theorem written_piecesAt_tokenSpans (hm : g.HasMarks opening closing) (text : List Char) :
    (piecesAt text 0 (tokenSpans opening closing text)).flatMap (Piece.written opening closing) =
      text := by
  refine written_piecesAt ?_ (fun _ _ => Nat.zero_le _) (pairwise_tokenSpans hm text)
  intro span hspan
  obtain ⟨hlt, hs, he, _⟩ := mem_tokenSpans_iff.mp hspan
  exact ⟨hlt, hs, he⟩

/-- Parsing joins the segments of the scanned pieces. -/
theorem result_parse (g : Grammar) (template : String) (voice : Voice) :
    (g.parse (some template)).result voice =
      .ok (Segment.joinLiterals ((g.scan template).pieces.flatMap g.segmentsOf)) := by
  unfold parse
  by_cases hempty : template = ""
  · subst hempty
    simp [scan, scanFrom, Segment.joinLiterals, Segment.joinBehind, Segment.ofText]
  · simp only [hempty, if_false]
    cases hscan : (g.scan template).unterminated with
    | none => simp [result_classifyAll]
    | some offset => simp [result_classifyAll]

/-- A scan gives the same segments as the pieces at the tokens that it finds. -/
theorem exists_tokens_joinLiterals_scan (hopening : g.opening ≠ []) (template : String) :
    ∃ spans, g.Tokens template.toList spans ∧
      Segment.joinLiterals ((g.scan template).pieces.flatMap g.segmentsOf) =
        Segment.joinLiterals ((piecesAt template.toList 0 spans).flatMap g.segmentsOf) := by
  obtain ⟨spans, htokens, missing, hpieces, hmissing⟩ :=
    exists_tokens_scanFrom hopening template.length template.toList
  refine ⟨spans, htokens, Segment.joinLiterals_eq_of_atoms_eq ?_⟩
  have hnone : (missing.flatMap g.segmentsOf).flatMap Segment.atoms = [] := by
    rw [List.flatMap_eq_nil_iff]
    intro s hs
    obtain ⟨piece, hpiece, hs⟩ := List.mem_flatMap.mp hs
    rw [hmissing piece hpiece] at hs
    rw [List.mem_singleton.mp hs]
    rfl
  rw [hpieces, List.flatMap_append, List.flatMap_append, hnone, List.append_nil]
  rfl

/-- Between marks of one character, a scan gives the same segments as the pieces at all tokens. -/
theorem joinLiterals_scan (hm : g.HasMarks opening closing) (template : String) :
    Segment.joinLiterals ((g.scan template).pieces.flatMap g.segmentsOf) =
      Segment.joinLiterals
        ((piecesAt template.toList 0 (tokenSpans opening closing template.toList)).flatMap
          g.segmentsOf) := by
  obtain ⟨spans, htokens, hjoined⟩ := exists_tokens_joinLiterals_scan hm.opening_ne_nil template
  rw [hjoined, htokens.eq_tokenSpans hm]

/-- A grammar that was made from two marks and a keyword reads every template as follows. The tokens are
all the pairs of an opening mark and a later closing mark with no mark between them, and they do not overlap.
Everything else is literal, so that tokens and literals together are the template. The segments are those
of the pieces, where the body of a token stands for what it is classified as; literals are joined, which
keeps all characters and tokens in their order, and leaves no literal that is empty or next to another. -/
theorem parse_joins_pieces_at_tokens {o c keyword : String} {g : Grammar}
    (accepted : Grammar.make o c keyword = .ok g) (template : String) (voice : Voice) :
    ∃ opening closing : Char, o = String.singleton opening ∧ c = String.singleton closing ∧
      let spans := tokenSpans opening closing template.toList
      let pieces := piecesAt template.toList 0 spans
      let segments := Segment.joinLiterals (pieces.flatMap g.segmentsOf)
      (g.parse (some template)).result voice = .ok segments ∧
        (∀ s e, (s, e) ∈ spans ↔ IsToken opening closing template.toList s e) ∧
        (spans.Pairwise fun p q => p.2 < q.1) ∧
        pieces.flatMap (Piece.written opening closing) = template.toList ∧
        (∀ body, (g.classify body).result voice = .ok (g.bodySegment? body)) ∧
        segments.flatMap Segment.atoms = (pieces.flatMap g.segmentsOf).flatMap Segment.atoms ∧
        Segment.IsJoined segments := by
  obtain ⟨opening, closing, ho, hc, hm, _⟩ := make_eq_ok accepted
  refine ⟨opening, closing, ho, hc, ?_, ?_, ?_, ?_, ?_, ?_, ?_⟩
  · rw [result_parse, joinLiterals_scan hm]
  · exact fun s e => mem_tokenSpans_iff
  · exact pairwise_tokenSpans hm template.toList
  · exact written_piecesAt_tokenSpans hm template.toList
  · exact fun body => result_classify g body voice
  · exact Segment.atoms_joinLiterals _
  · exact Segment.isJoined_joinLiterals _

/-- A stray mark before a token, a reopened token, a blank one and one that is never closed. -/
theorem parse_joins_pieces_of_stray_marks :
    Grammar.make "[" "]" "with" =
        .ok ⟨['['], [']'], ['w', 'i', 't', 'h'], ['/', 'w', 'i', 't', 'h']⟩ ∧
      (Grammar.parse ⟨['['], [']'], ['w', 'i', 't', 'h'], ['/', 'w', 'i', 't', 'h']⟩
          (some "]x[y[a.b][ ] z[/with][")).result {} =
        .ok [.literal "]x[y", .value ["a", "b"] none, .literal " z", .scopeClose, .literal "["] := by
  have accepted : Grammar.make "[" "]" "with" =
      .ok ⟨['['], [']'], ['w', 'i', 't', 'h'], ['/', 'w', 'i', 't', 'h']⟩ := by
    decide
  refine ⟨accepted, ?_⟩
  obtain ⟨opening, closing, ho, hc, hparse, _⟩ :=
    parse_joins_pieces_at_tokens accepted "]x[y[a.b][ ] z[/with][" {}
  have hopening : '[' = opening := (String.singleton_inj (c := '[')).mp ho
  have hclosing : ']' = closing := (String.singleton_inj (c := ']')).mp hc
  subst hopening hclosing
  rw [hparse]
  decide

end Grammar

end Stencil
