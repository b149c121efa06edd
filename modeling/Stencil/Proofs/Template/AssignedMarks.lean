import Stencil.Proofs.Template.Parse
import Stencil.Session

/-!
# Tokens between marks that were assigned

The marks of a grammar may be set to any texts after it was made. They may then be longer than one character, occur inside
each other and overlap, and they may be empty; a scan steps over one character for each of them all the same.

* A scan of a text ends after at most one token for every two characters, whatever the marks are
  (`Grammar.two_mul_tokens_scanFrom_le`).
* Between marks that are not empty, every token that is found stands between two marks of its own
  (`Grammar.TokenAt`, `Grammar.Tokens.tokenAt`), and none is missed: behind every opening mark, a token ends at the first
  closing mark or before it (`Grammar.Tokens.exists_end_between`).
* `Grammar.parse_between_assigned_marks`: what a template is read as.
-/

namespace Stencil

open Text (OccursAt)

/-- Whether a piece is the body of a token. -/
def Piece.isToken : Piece → Bool
  | .token _ => true
  | .literal _ => false

namespace Grammar

variable {g : Grammar} {text : List Char} {s e : Nat}

/-! ## The length of a scan -/

/-- A token takes two characters at least for its marks, as far as there are so many. -/
theorem length_rest_of_cut {literal body rest : List Char} (h : g.cut text = .token literal body rest) :
    rest.length ≤ text.length - 2 := by
  unfold cut at h
  split at h
  · cases h
  · simp only at h
    split at h
    · cases h
    · split at h <;> cases h <;> simp only [List.length_drop] <;> omega

theorem two_mul_tokens_scanFrom_le (g : Grammar) (total : Nat) (text : List Char) :
    2 * (g.scanFrom total text).pieces.countP Piece.isToken ≤ text.length + 1 := by
  fun_induction scanFrom g total text with
  | case1 => exact Nat.zero_le _
  | case2 text hne hcut => exact Nat.zero_le _
  | case3 text hne first hcut => exact Nat.zero_le _
  | case4 text hne literal body rest hcut later ih =>
      have hrest := length_rest_of_cut hcut
      have hpos : 0 < text.length := List.length_pos_iff.mpr hne
      have hcount : (Piece.literal literal :: .token body :: (g.scanFrom total rest).pieces).countP Piece.isToken =
          (g.scanFrom total rest).pieces.countP Piece.isToken + 1 := by
        rw [List.countP_cons_of_neg Bool.false_ne_true, List.countP_cons_of_pos rfl]
      change 2 * (Piece.literal literal :: .token body :: (g.scanFrom total rest).pieces).countP Piece.isToken ≤ _
      omega

/-! ## The places of tokens -/

/-- A token stands between an opening mark at the place `s` and a closing mark at the place `e`: no closing mark starts
between these places, and behind the character at `s` no opening mark fits in front of `e`. -/
structure TokenAt (g : Grammar) (text : List Char) (s e : Nat) : Prop where
  lt : s < e
  opens : OccursAt g.opening text s
  closes : OccursAt g.closing text e
  no_close : ∀ i, s < i → i < e → ¬ OccursAt g.closing text i
  no_reopen : ∀ i, s < i → i + g.opening.length ≤ e → ¬ OccursAt g.opening text i

theorem FirstToken.tokenAt {first : Nat} (h : g.FirstToken text first s e) : g.TokenAt text s e :=
  ⟨h.lt, h.opens, h.closes, fun i hs => h.no_close i (Nat.lt_of_le_of_lt h.first_le hs), h.no_reopen⟩

/-- A token of the rest of a text is one of the text. -/
theorem TokenAt.of_drop {k : Nat} (hk : k ≤ text.length) (h : g.TokenAt (text.drop k) s e) :
    g.TokenAt text (k + s) (k + e) := by
  refine ⟨?_, ?_, ?_, ?_, ?_⟩
  · have hlt := h.lt
    omega
  · exact (Text.occursAt_drop_iff hk s).mp h.opens
  · exact (Text.occursAt_drop_iff hk e).mp h.closes
  · intro i hs he hoccurs
    exact h.no_close (i - k) (by omega) (by omega) (hoccurs.drop (by omega))
  · intro i hs he hoccurs
    exact h.no_reopen (i - k) (by omega) (by omega) (hoccurs.drop (by omega))

theorem TokenAt.end_lt_length (hclosing : g.closing ≠ []) (h : g.TokenAt text s e) : e < text.length := by
  have hpos : 0 < g.closing.length := List.length_pos_iff.mpr hclosing
  have hend := h.closes.add_length_le
  omega

/-- The tokens that are found one after the other are tokens of the whole text. -/
theorem Tokens.tokenAt {spans : List (Nat × Nat)} (hclosing : g.closing ≠ []) (h : g.Tokens text spans) :
    ∀ span, span ∈ spans → g.TokenAt text span.1 span.2 := by
  induction h with
  | plain => exact List.forall_mem_nil _
  | unterminated => exact List.forall_mem_nil _
  | @token text first s e spans hfirst _ ih =>
      have hlength : e + 1 ≤ text.length := hfirst.tokenAt.end_lt_length hclosing
      rw [List.forall_mem_cons]
      refine ⟨hfirst.tokenAt, ?_⟩
      intro span hspan
      obtain ⟨inner, hinner, rfl⟩ := List.mem_map.mp hspan
      exact (ih inner hinner).of_drop hlength

/-- No token is missed: from an opening mark to a later closing mark, a token ends. -/
theorem Tokens.exists_end_between {spans : List (Nat × Nat)} (h : g.Tokens text spans) {i j : Nat}
    (hi : OccursAt g.opening text i) (hj : OccursAt g.closing text j) (hlt : i < j) :
    ∃ span, span ∈ spans ∧ i ≤ span.2 ∧ span.2 ≤ j := by
  induction h generalizing i j with
  | plain hnone => exact absurd hi (hnone i)
  | @unterminated text first hfirst hclosed =>
      have hbehind : first ≤ i := by
        by_contra hearlier
        exact hfirst i (by omega) hi
      exact absurd hj (hclosed j (by omega))
  | @token text first s e spans hfirst _ ih =>
      have hbehind : first ≤ i := by
        by_contra hearlier
        exact hfirst.no_earlier i (by omega) hi
      by_cases hinside : i ≤ e
      · refine ⟨(s, e), List.mem_cons_self, hinside, ?_⟩
        by_contra hearlier
        exact hfirst.no_close j (by omega) (by omega) hj
      · obtain ⟨span, hspan, hlow, hhigh⟩ :=
          ih (hi.drop (by omega : e + 1 ≤ i)) (hj.drop (by omega : e + 1 ≤ j)) (by omega)
        refine ⟨shiftedBy (e + 1) span, List.mem_cons_of_mem _ (List.mem_map_of_mem hspan), ?_, ?_⟩
        · simp only [shiftedBy]
          omega
        · simp only [shiftedBy]
          omega

/-- Between marks that are not empty, one character is stepped over for each mark, which is its first one. -/
theorem Tokens.written_piecesAt {spans : List (Nat × Nat)} (h : g.Tokens text spans) {o c : Char} {os cs : List Char}
    (hopening : g.opening = o :: os) (hclosing : g.closing = c :: cs) :
    (piecesAt text 0 spans).flatMap (Piece.written o c) = text := by
  have hne : g.closing ≠ [] := by
    rw [hclosing]
    exact List.cons_ne_nil c cs
  refine Stencil.written_piecesAt ?_ (fun _ _ => Nat.zero_le _) h.pairwise
  intro span hspan
  have htoken := h.tokenAt hne span hspan
  have hopens := htoken.opens
  have hcloses := htoken.closes
  rw [hopening] at hopens
  rw [hclosing] at hcloses
  exact ⟨htoken.lt, hopens.getElem?_eq_head?, hcloses.getElem?_eq_head?⟩

/-! ## Reading templates -/

/-- Setting the marks of a grammar changes nothing of how the bodies of tokens are read. -/
theorem bodySegment?_set_marks (g : Grammar) (opening closing : String) (body : List Char) :
    ((g.set .opening opening).set .closing closing).bodySegment? body = g.bodySegment? body := by
  rfl

theorem segmentsOf_set_marks (g : Grammar) (opening closing : String) :
    ((g.set .opening opening).set .closing closing).segmentsOf = g.segmentsOf := by
  funext piece
  cases piece with
  | literal text => rfl
  | token body => rw [segmentsOf, bodySegment?_set_marks, segmentsOf]

/-- A template that is missing is read as the empty one. -/
theorem result_parse_getD (g : Grammar) (template : Option String) (voice : Voice) :
    (g.parse template).result voice =
      .ok (Segment.joinLiterals ((g.scan (template.getD "")).pieces.flatMap g.segmentsOf)) := by
  cases template with
  | none => exact result_parse g "" voice
  | some template => exact result_parse g template voice

/-- For every grammar whose marks are set to any texts, every template and every voice: the template is read to the end,
without a fault, and in at most one round for every two characters. If neither mark is empty, there are places of tokens,
which do not overlap: each stands between an opening mark and the first closing mark behind it, and no opening mark fits
between them. From every opening mark to a later closing mark, one of the tokens ends. The segments are those of the text
between the tokens and of their bodies, joined; and with the first character of each mark put back, all of this is the
template. -/
theorem parse_between_assigned_marks (g : Grammar) (opening closing : String) (template : Option String)
    (voice : Voice) :
    let assigned := (g.set .opening opening).set .closing closing
    let text := (template.getD "").toList
    (∃ segments, (assigned.parse template).result voice = .ok segments) ∧
      2 * (assigned.scan (template.getD "")).pieces.countP Piece.isToken ≤ text.length + 1 ∧
      (opening ≠ "" → closing ≠ "" → ∃ spans : List (Nat × Nat),
        let pieces := piecesAt text 0 spans
        let segments := Segment.joinLiterals (pieces.flatMap g.segmentsOf)
        (assigned.parse template).result voice = .ok segments ∧
          (spans.Pairwise fun p q => p.2 < q.1) ∧
          (∀ span, span ∈ spans → assigned.TokenAt text span.1 span.2) ∧
          (∀ i j, OccursAt opening.toList text i → OccursAt closing.toList text j → i < j →
            ∃ span, span ∈ spans ∧ i ≤ span.2 ∧ span.2 ≤ j) ∧
          (∃ o c, opening.toList.head? = some o ∧ closing.toList.head? = some c ∧
            pieces.flatMap (Piece.written o c) = text) ∧
          (∀ body, (assigned.classify body).result voice = .ok (g.bodySegment? body)) ∧
          segments.flatMap Segment.atoms = (pieces.flatMap g.segmentsOf).flatMap Segment.atoms ∧
          Segment.IsJoined segments) := by
  intro assigned text
  have hresult := result_parse_getD assigned template voice
  refine ⟨⟨_, hresult⟩, ?_, ?_⟩
  · rw [scan, ← String.length_toList]
    exact two_mul_tokens_scanFrom_le assigned _ text
  · intro hopening hclosing
    obtain ⟨o, os, ho⟩ := List.exists_cons_of_ne_nil (mt String.toList_eq_nil_iff.mp hopening)
    obtain ⟨c, cs, hc⟩ := List.exists_cons_of_ne_nil (mt String.toList_eq_nil_iff.mp hclosing)
    have hopens : assigned.opening = o :: os := ho
    have hcloses : assigned.closing = c :: cs := hc
    have hne : assigned.closing ≠ [] := by
      rw [hcloses]
      exact List.cons_ne_nil c cs
    obtain ⟨spans, htokens, hjoined⟩ := exists_tokens_joinLiterals_scan (g := assigned)
      (by rw [hopens]; exact List.cons_ne_nil o os) (template.getD "")
    rw [segmentsOf_set_marks] at hjoined hresult
    refine ⟨spans, ?_, htokens.pairwise, htokens.tokenAt hne, ?_, ?_, ?_, ?_, ?_⟩
    · rw [hresult, hjoined]
    · exact fun i j hi hj hlt => htokens.exists_end_between hi hj hlt
    · exact ⟨o, c, by rw [ho]; rfl, by rw [hc]; rfl, htokens.written_piecesAt hopens hcloses⟩
    · exact fun body => result_classify assigned body voice
    · exact Segment.atoms_joinLiterals _
    · exact Segment.isJoined_joinLiterals _

/-- The opening mark overlaps itself and the closing mark: in the row of three characters the first one opens a token, and
the second one opens no other, for the closing mark starts within it. -/
theorem parse_between_assigned_marks_of_overlap :
    let g : Grammar := ⟨['['], [']'], ['w', 'i', 't', 'h'], ['/', 'w', 'i', 't', 'h']⟩
    let assigned := (g.set .opening "aa").set .closing "ab"
    "aa" ≠ "" ∧ "ab" ≠ "" ∧
      (assigned.parse (some "xaaabyab")).result {} = .ok [.literal "x", .value ["a"] none, .literal "byab"] ∧
      ∃ spans : List (Nat × Nat), (∀ span, span ∈ spans → assigned.TokenAt "xaaabyab".toList span.1 span.2) ∧
        (∃ span, span ∈ spans ∧ 1 ≤ span.2 ∧ span.2 ≤ 3) ∧
        (piecesAt "xaaabyab".toList 0 spans).flatMap (Piece.written 'a' 'a') = "xaaabyab".toList := by
  intro g assigned
  have hopening : "aa" ≠ "" := by
    decide
  have hclosing : "ab" ≠ "" := by
    decide
  obtain ⟨-, -, htokens⟩ := parse_between_assigned_marks g "aa" "ab" (some "xaaabyab") {}
  obtain ⟨spans, -, -, hplaces, hends, ⟨o, c, ho, hc, hwritten⟩, -⟩ := htokens hopening hclosing
  cases ho
  cases hc
  have hopens : OccursAt "aa".toList "xaaabyab".toList 1 := by
    decide
  have hcloses : OccursAt "ab".toList "xaaabyab".toList 3 := by
    decide
  refine ⟨hopening, hclosing, ?_, spans, hplaces, hends 1 3 hopens hcloses (by decide), hwritten⟩
  with_unfolding_all rfl

end Grammar

end Stencil
