import Stencil.Proofs.Template.Scan
import Mathlib.Data.List.ProdSigma
import Mathlib.Data.List.Sort

/-!
# Tokens between marks of one character

A new grammar has marks of one character each, which differ (`Grammar.HasMarks`, `Grammar.hasMarks_of_make`).
For such marks the tokens of a text have a description that does not speak of scanning: they are all the
pairs of an opening mark and a later closing mark with no mark between them (`IsToken`, `tokenSpans`). The
tokens that a scan finds are exactly these (`Grammar.Tokens.eq_tokenSpans`).
-/

namespace Stencil

open Text (OccursAt)

section Places

variable (opening closing : Char)

/-- A token has its opening mark at the place `s` and its closing mark at the place `e`. -/
def IsToken (text : List Char) (s e : Nat) : Prop :=
  s < e ∧ text[s]? = some opening ∧ text[e]? = some closing ∧
    ∀ i, i < e → s < i → text[i]? ≠ some opening ∧ text[i]? ≠ some closing

instance (text : List Char) (s e : Nat) : Decidable (IsToken opening closing text s e) :=
  inferInstanceAs (Decidable (_ ∧ _ ∧ _ ∧ _))

/-- All tokens of a text, from left to right. -/
def tokenSpans (text : List Char) : List (Nat × Nat) :=
  (List.range text.length ×ˢ List.range text.length).filter
    fun span => IsToken opening closing text span.1 span.2

end Places

example : tokenSpans '[' ']' "a[b[c]d][e]f]".toList = [(3, 5), (8, 10)] := by
  decide

variable {opening closing : Char} {text : List Char} {s e : Nat}

theorem IsToken.lt_length (h : IsToken opening closing text s e) :
    s < text.length ∧ e < text.length := by
  obtain ⟨_, hs, he, _⟩ := h
  exact ⟨(List.getElem?_eq_some_iff.mp hs).1, (List.getElem?_eq_some_iff.mp he).1⟩

theorem mem_tokenSpans_iff :
    (s, e) ∈ tokenSpans opening closing text ↔ IsToken opening closing text s e := by
  unfold tokenSpans
  rw [List.mem_filter, List.mem_product, List.mem_range, List.mem_range, decide_eq_true_iff]
  constructor
  · exact fun h => h.2
  · exact fun h => ⟨h.lt_length, h⟩

/-- The order from left to right: by the place of the opening mark, then by that of the closing mark. -/
def LeftOf (p q : Nat × Nat) : Prop :=
  p.1 < q.1 ∨ (p.1 = q.1 ∧ p.2 < q.2)

instance : Std.Irrefl LeftOf :=
  ⟨fun p h => by unfold LeftOf at h; omega⟩

instance : Std.Antisymm LeftOf :=
  ⟨fun p q h h' => by unfold LeftOf at h h'; omega⟩

theorem pairwise_leftOf_tokenSpans (text : List Char) :
    (tokenSpans opening closing text).Pairwise LeftOf := by
  refine List.Pairwise.filter _ ?_
  change (List.flatMap (fun s => (List.range text.length).map (Prod.mk s)) _).Pairwise _
  rw [List.pairwise_flatMap]
  constructor
  · intro s _
    rw [List.pairwise_map]
    exact List.pairwise_lt_range.imp fun h => Or.inr ⟨rfl, h⟩
  · refine List.pairwise_lt_range.imp ?_
    intro s s' hlt p hp q hq
    obtain ⟨_, _, rfl⟩ := List.mem_map.mp hp
    obtain ⟨_, _, rfl⟩ := List.mem_map.mp hq
    exact Or.inl hlt

theorem isToken_drop_iff (k : Nat) :
    IsToken opening closing (text.drop k) s e ↔ IsToken opening closing text (k + s) (k + e) := by
  unfold IsToken
  simp only [List.getElem?_drop]
  constructor
  · rintro ⟨hlt, hs, he, hbare⟩
    refine ⟨by omega, hs, he, ?_⟩
    intro i hi hlow
    have hmarks := hbare (i - k) (by omega) (by omega)
    rwa [Nat.add_sub_cancel' (by omega)] at hmarks
  · rintro ⟨hlt, hs, he, hbare⟩
    refine ⟨by omega, hs, he, ?_⟩
    intro i hi hlow
    exact hbare (k + i) (by omega) (by omega)

namespace Grammar

variable {g : Grammar}

/-- The marks of a grammar are two different characters. -/
structure HasMarks (g : Grammar) (opening closing : Char) : Prop where
  opening_eq : g.opening = [opening]
  closing_eq : g.closing = [closing]
  ne : opening ≠ closing

/-- What a grammar is made from: two different characters and a keyword. -/
theorem make_eq_ok {o c keyword : String} (h : Grammar.make o c keyword = .ok g) :
    ∃ opening closing : Char, o = String.singleton opening ∧ c = String.singleton closing ∧
      g.HasMarks opening closing ∧ isKeyword keyword = true ∧
      g.keyword = keyword.toList ∧ g.closer = '/' :: keyword.toList := by
  unfold make at h
  split at h
  · cases h
  · next hlength =>
      rw [not_or, not_not, not_not, ← String.length_toList, ← String.length_toList] at hlength
      obtain ⟨opening, ho⟩ := List.length_eq_one_iff.mp hlength.1
      obtain ⟨closing, hc⟩ := List.length_eq_one_iff.mp hlength.2
      split at h
      · cases h
      · next hdiffer =>
          split at h
          · cases h
          · next hkeyword =>
              cases h
              refine ⟨opening, closing, String.toList_inj.mp (by simpa using ho),
                String.toList_inj.mp (by simpa using hc), ⟨ho, hc, ?_⟩, by simpa using hkeyword,
                rfl, rfl⟩
              rintro rfl
              exact hdiffer (String.toList_inj.mp (by rw [ho, hc]))

theorem HasMarks.opening_ne_nil (hm : g.HasMarks opening closing) : g.opening ≠ [] := by
  rw [hm.opening_eq]
  simp

theorem HasMarks.opensAt_iff (hm : g.HasMarks opening closing) (i : Nat) :
    OccursAt g.opening text i ↔ text[i]? = some opening := by
  rw [hm.opening_eq, Text.occursAt_singleton_iff]

theorem HasMarks.closesAt_iff (hm : g.HasMarks opening closing) (i : Nat) :
    OccursAt g.closing text i ↔ text[i]? = some closing := by
  rw [hm.closing_eq, Text.occursAt_singleton_iff]

theorem FirstToken.isToken {first : Nat} (h : g.FirstToken text first s e)
    (hm : g.HasMarks opening closing) : IsToken opening closing text s e := by
  refine ⟨h.lt, (hm.opensAt_iff s).mp h.opens, (hm.closesAt_iff e).mp h.closes, ?_⟩
  intro i hi hlow
  constructor
  · rw [ne_eq, ← hm.opensAt_iff]
    refine h.no_reopen i hlow ?_
    rw [hm.opening_eq]
    exact hi
  · rw [ne_eq, ← hm.closesAt_iff]
    exact h.no_close i (Nat.lt_of_le_of_lt h.first_le hlow) hi

/-- Every token of a text is its first token or stands behind it. -/
theorem FirstToken.eq_or_lt {first s' e' : Nat} (h : g.FirstToken text first s e)
    (hm : g.HasMarks opening closing) (ht : IsToken opening closing text s' e') :
    (s' = s ∧ e' = e) ∨ e < s' := by
  obtain ⟨hlt, hs, he, hbare⟩ := h.isToken hm
  obtain ⟨hlt', hs', he', hbare'⟩ := ht
  have hfirst : first ≤ s' := by
    by_contra hearlier
    exact h.no_earlier s' (by omega) ((hm.opensAt_iff s').mpr hs')
  have hend : e ≤ e' := by
    by_contra hearlier
    exact h.no_close e' (by omega) (by omega) ((hm.closesAt_iff e').mpr he')
  have hne : s' ≠ e := by
    intro heq
    rw [heq, he] at hs'
    exact hm.ne (Option.some.inj hs').symm
  by_cases hsame : e' = e
  · subst hsame
    left
    refine ⟨?_, rfl⟩
    -- two opening marks before one closing mark: the earlier one would not be bare
    rcases Nat.lt_trichotomy s' s with hless | heq | hmore
    · exact absurd hs (hbare' s hlt hless).1
    · exact heq
    · exact absurd hs' (hbare s' hlt' hmore).1
  · right
    by_contra hbefore
    exact (hbare' e (by omega) (by omega)).2 he

/-- The tokens that are found one after the other are all tokens of the text. -/
theorem Tokens.mem_iff {spans : List (Nat × Nat)} (h : g.Tokens text spans)
    (hm : g.HasMarks opening closing) (span : Nat × Nat) :
    span ∈ spans ↔ IsToken opening closing text span.1 span.2 := by
  induction h generalizing span with
  | plain hnone =>
      simp only [List.not_mem_nil, false_iff]
      rintro ⟨_, hs, _⟩
      exact hnone _ ((hm.opensAt_iff _).mpr hs)
  | unterminated hfirst hclosed =>
      simp only [List.not_mem_nil, false_iff]
      rintro ⟨hlt, hs, he, _⟩
      refine hclosed _ (Nat.lt_of_le_of_lt ?_ hlt) ((hm.closesAt_iff _).mpr he)
      by_contra hearlier
      exact hfirst _ (by omega) ((hm.opensAt_iff _).mpr hs)
  | @token text first s e spans hfirst hrest ih =>
      rw [List.mem_cons, List.mem_map]
      constructor
      · rintro (rfl | ⟨inner, hinner, rfl⟩)
        · exact hfirst.isToken hm
        · exact (isToken_drop_iff (e + 1)).mp ((ih inner).mp hinner)
      · intro ht
        rcases hfirst.eq_or_lt hm ht with ⟨hs, he⟩ | hbehind
        · exact Or.inl (Prod.ext hs he)
        · have hlt := ht.1
          refine Or.inr ⟨(span.1 - (e + 1), span.2 - (e + 1)), ?_, ?_⟩
          · rw [ih, isToken_drop_iff]
            simp only
            rwa [Nat.add_sub_cancel' (by omega), Nat.add_sub_cancel' (by omega)]
          · simp only [shiftedBy]
            rw [Nat.add_sub_cancel' (by omega), Nat.add_sub_cancel' (by omega)]

/-- The tokens that are found one after the other are the list of all tokens. -/
theorem Tokens.eq_tokenSpans {spans : List (Nat × Nat)} (h : g.Tokens text spans)
    (hm : g.HasMarks opening closing) : spans = tokenSpans opening closing text := by
  refine List.Pairwise.eq_of_mem_iff (r := LeftOf) ?_ (pairwise_leftOf_tokenSpans text) ?_
  · refine h.pairwise.imp_of_mem ?_
    intro p q hp _ hlt
    have hp' : p.1 < p.2 := ((h.mem_iff hm p).mp hp).1
    exact Or.inl (Nat.lt_trans hp' hlt)
  · intro span
    rw [h.mem_iff hm]
    exact mem_tokenSpans_iff.symm

end Grammar

end Stencil
