import Stencil.Proofs.Journal.Outcome
import Stencil.Template.Parse
import Mathlib.Data.List.Chain

/-!
# Joining literals

A list of segments is joined when no literal in it is empty and no two literals are neighbours. Every list
can be joined (`Segment.joinLiterals`), and this neither loses, doubles nor moves anything: the atoms of the
list, that is the characters of its literals and its other segments, stay the same. A joined list is
determined by its atoms (`Segment.eq_of_atoms_eq`), so there is only one way to join a list.

`Grammar.result_classifyAll`: classifying the pieces of a scanned text gives the segments of the single
pieces, joined.
-/

namespace Stencil
namespace Segment

/-- Whether a segment is literal text. -/
def isLiteral : Segment → Bool
  | literal _ => true
  | _ => false

/-- No literal is empty, and no two literals are neighbours. -/
def IsJoined (segments : List Segment) : Prop :=
  literal "" ∉ segments ∧
    segments.IsChain fun s t => ¬ (s.isLiteral = true ∧ t.isLiteral = true)

/-- A text as a literal, unless it is empty. -/
def ofText (text : String) : List Segment :=
  if text = "" then [] else [literal text]

/-- Joins literals behind the text that is still open: it is collected until a segment of another kind
comes. -/
def joinBehind (text : String) : List Segment → List Segment
  | [] => ofText text
  | literal next :: segments => joinBehind (text ++ next) segments
  | segment :: segments => ofText text ++ segment :: joinBehind "" segments

/-- Joins neighbouring literals, and drops those that are empty. -/
def joinLiterals (segments : List Segment) : List Segment :=
  joinBehind "" segments

example : joinLiterals [.literal "", .scopeClose, .literal "a", .literal "", .literal "b"] =
    [.scopeClose, .literal "ab"] := by
  decide

/-! ## Atoms -/

/-- The characters of a literal, or a segment of another kind as a whole. -/
def atoms : Segment → List (Char ⊕ Segment)
  | literal text => text.toList.map Sum.inl
  | segment => [Sum.inr segment]

theorem exists_of_isLiteral {s : Segment} (h : s.isLiteral = true) : ∃ text, s = literal text := by
  cases s with
  | literal text => exact ⟨text, rfl⟩
  | _ => cases h

theorem atoms_of_not_literal {s : Segment} (h : s.isLiteral = false) : s.atoms = [Sum.inr s] := by
  cases s with
  | literal text => cases h
  | _ => rfl

theorem atoms_ofText (text : String) :
    (ofText text).flatMap atoms = text.toList.map Sum.inl := by
  unfold ofText
  split
  · next h => simp [h]
  · simp [atoms]

theorem atoms_joinBehind (text : String) (segments : List Segment) :
    (joinBehind text segments).flatMap atoms =
      text.toList.map Sum.inl ++ segments.flatMap atoms := by
  induction segments generalizing text with
  | nil =>
      simp [joinBehind, atoms_ofText]
  | cons s segments ih =>
      cases s with
      | literal next =>
          simp [joinBehind, ih, atoms]
      | _ =>
          simp [joinBehind, ih, atoms_ofText]

theorem atoms_joinLiterals (segments : List Segment) :
    (joinLiterals segments).flatMap atoms = segments.flatMap atoms := by
  simp [joinLiterals, atoms_joinBehind]

/-! ## Joined lists -/

theorem isJoined_nil : IsJoined [] := by
  simp [IsJoined]

theorem isJoined_cons_iff {s : Segment} {segments : List Segment} :
    IsJoined (s :: segments) ↔
      s ≠ literal "" ∧ (s.isLiteral = true → ∀ t, segments.head? = some t → t.isLiteral = false) ∧
        IsJoined segments := by
  unfold IsJoined
  rw [List.mem_cons, not_or, List.isChain_cons]
  constructor
  · rintro ⟨⟨hs, hrest⟩, hhead, hchain⟩
    refine ⟨Ne.symm hs, ?_, hrest, hchain⟩
    intro hliteral t ht
    have hnot := hhead t ht
    rw [not_and] at hnot
    exact Bool.eq_false_iff.mpr (hnot hliteral)
  · rintro ⟨hs, hhead, hrest, hchain⟩
    refine ⟨⟨Ne.symm hs, hrest⟩, ?_, hchain⟩
    rintro t ht ⟨hliteral, ht'⟩
    rw [hhead hliteral t ht] at ht'
    cases ht'

theorem isJoined_cons_of_not_literal {s : Segment} {segments : List Segment}
    (hs : s.isLiteral = false) (h : IsJoined segments) : IsJoined (s :: segments) := by
  rw [isJoined_cons_iff]
  refine ⟨?_, ?_, h⟩
  · rintro rfl
    cases hs
  · intro hliteral
    rw [hs] at hliteral
    cases hliteral

theorem isJoined_ofText_append {text : String} {segments : List Segment} (h : IsJoined segments)
    (hhead : ∀ t, segments.head? = some t → t.isLiteral = false) :
    IsJoined (ofText text ++ segments) := by
  unfold ofText
  split
  · exact h
  · next htext =>
      rw [List.singleton_append, isJoined_cons_iff]
      exact ⟨by simpa using htext, fun _ => hhead, h⟩

theorem isJoined_joinBehind (text : String) (segments : List Segment) :
    IsJoined (joinBehind text segments) := by
  induction segments generalizing text with
  | nil =>
      have hjoined := @isJoined_ofText_append text [] isJoined_nil (by simp)
      simpa [joinBehind] using hjoined
  | cons s segments ih =>
      cases s with
      | literal next =>
          exact ih (text ++ next)
      | _ =>
          refine isJoined_ofText_append (isJoined_cons_of_not_literal rfl (ih "")) ?_
          intro t ht
          cases ht
          rfl

theorem isJoined_joinLiterals (segments : List Segment) : IsJoined (joinLiterals segments) :=
  isJoined_joinBehind "" segments

theorem eq_of_map_inl_append_eq {a b : List Char} {x y : List (Char ⊕ Segment)}
    (hx : ∀ c, x.head? ≠ some (Sum.inl c)) (hy : ∀ c, y.head? ≠ some (Sum.inl c))
    (h : a.map Sum.inl ++ x = b.map Sum.inl ++ y) : a = b ∧ x = y := by
  induction a generalizing b with
  | nil =>
      cases b with
      | nil => exact ⟨rfl, h⟩
      | cons d b =>
          simp only [List.map_nil, List.nil_append, List.map_cons, List.cons_append] at h
          exact absurd (by rw [h]; rfl) (hx d)
  | cons c a ih =>
      cases b with
      | nil =>
          simp only [List.map_nil, List.nil_append, List.map_cons, List.cons_append] at h
          exact absurd (by rw [← h]; rfl) (hy c)
      | cons d b =>
          simp only [List.map_cons, List.cons_append, List.cons.injEq, Sum.inl.injEq] at h
          obtain ⟨rfl, rfl⟩ := ih h.2
          exact ⟨by rw [h.1], rfl⟩

theorem head?_atoms_of_head?_not_literal {segments : List Segment}
    (h : ∀ t, segments.head? = some t → t.isLiteral = false) (c : Char) :
    (segments.flatMap atoms).head? ≠ some (Sum.inl c) := by
  cases segments with
  | nil =>
      simp
  | cons t segments =>
      rw [List.flatMap_cons, atoms_of_not_literal (h t rfl)]
      simp

/-- A literal of a joined list starts with a character. -/
theorem head?_atoms_literal {text : String} {segments : List Segment}
    (h : IsJoined (literal text :: segments)) :
    ∃ c, ((literal text :: segments).flatMap atoms).head? = some (Sum.inl c) := by
  have htext : text.toList ≠ [] := by
    intro hempty
    exact (isJoined_cons_iff.mp h).1 (by rw [String.toList_eq_nil_iff.mp hempty])
  obtain ⟨c, rest, hc⟩ := List.exists_cons_of_ne_nil htext
  exact ⟨c, by simp [atoms, hc]⟩

theorem eq_nil_of_atoms_eq_nil {segments : List Segment} (h : IsJoined segments)
    (hnil : segments.flatMap atoms = []) : segments = [] := by
  cases segments with
  | nil => rfl
  | cons s segments =>
      cases s with
      | literal text =>
          obtain ⟨c, hc⟩ := head?_atoms_literal h
          rw [hnil] at hc
          cases hc
      | _ => simp [atoms] at hnil

/-- A joined list is determined by its atoms. -/
theorem eq_of_atoms_eq {segments others : List Segment} (h : IsJoined segments)
    (h' : IsJoined others) (heq : segments.flatMap atoms = others.flatMap atoms) :
    segments = others := by
  induction segments generalizing others with
  | nil =>
      exact (eq_nil_of_atoms_eq_nil h' heq.symm).symm
  | cons s segments ih =>
      cases others with
      | nil =>
          exact eq_nil_of_atoms_eq_nil h heq
      | cons t others =>
          obtain ⟨_, hhead, hrest⟩ := isJoined_cons_iff.mp h
          obtain ⟨_, hhead', hrest'⟩ := isJoined_cons_iff.mp h'
          cases hs : s.isLiteral with
          | true =>
              obtain ⟨text, rfl⟩ := exists_of_isLiteral hs
              cases ht : t.isLiteral with
              | true =>
                  obtain ⟨text', rfl⟩ := exists_of_isLiteral ht
                  have hsplit := eq_of_map_inl_append_eq
                    (head?_atoms_of_head?_not_literal (hhead rfl))
                    (head?_atoms_of_head?_not_literal (hhead' rfl)) heq
                  rw [String.toList_inj.mp hsplit.1, ih hrest hrest' hsplit.2]
              | false =>
                  obtain ⟨c, hc⟩ := head?_atoms_literal h
                  rw [heq, List.flatMap_cons, atoms_of_not_literal ht] at hc
                  cases hc
          | false =>
              cases ht : t.isLiteral with
              | true =>
                  obtain ⟨text', rfl⟩ := exists_of_isLiteral ht
                  obtain ⟨c, hc⟩ := head?_atoms_literal h'
                  rw [← heq, List.flatMap_cons, atoms_of_not_literal hs] at hc
                  cases hc
              | false =>
                  rw [List.flatMap_cons, List.flatMap_cons, atoms_of_not_literal hs,
                    atoms_of_not_literal ht] at heq
                  simp only [List.singleton_append, List.cons.injEq, Sum.inr.injEq] at heq
                  rw [heq.1, ih hrest hrest' heq.2]

/-- What a list is joined to depends on its atoms only. -/
theorem joinLiterals_eq_of_atoms_eq {segments others : List Segment}
    (h : segments.flatMap atoms = others.flatMap atoms) :
    joinLiterals segments = joinLiterals others := by
  refine eq_of_atoms_eq (isJoined_joinLiterals segments) (isJoined_joinLiterals others) ?_
  rw [atoms_joinLiterals, atoms_joinLiterals, h]

theorem joinLiterals_of_isJoined {segments : List Segment} (h : IsJoined segments) :
    joinLiterals segments = segments :=
  eq_of_atoms_eq (isJoined_joinLiterals segments) h (atoms_joinLiterals segments)

/-! ## Putting a literal in front -/

theorem atoms_consLiteral (text : List Char) (segments : List Segment) :
    (consLiteral text segments).flatMap atoms = text.map Sum.inl ++ segments.flatMap atoms := by
  unfold consLiteral
  split
  · simp [atoms]
  · split
    · next h => simp [List.isEmpty_iff.mp h]
    · simp [atoms]

theorem isJoined_consLiteral {text : List Char} {segments : List Segment} (h : IsJoined segments) :
    IsJoined (consLiteral text segments) := by
  unfold consLiteral
  split
  · next next rest =>
      obtain ⟨hnext, hhead, hrest⟩ := isJoined_cons_iff.mp h
      rw [isJoined_cons_iff]
      refine ⟨?_, fun _ => hhead rfl, hrest⟩
      intro hempty
      apply hnext
      simp only [literal.injEq, String.append_eq_empty_iff] at hempty
      rw [hempty.2]
  · next hnot =>
      split
      · exact h
      · next htext =>
          rw [isJoined_cons_iff]
          refine ⟨?_, ?_, h⟩
          · intro hempty
            rw [literal.injEq, ← String.toList_inj, String.toList_ofList] at hempty
            exact htext (by rw [hempty]; rfl)
          · intro _ t ht
            cases segments with
            | nil => cases ht
            | cons s segments =>
                cases ht
                cases t with
                | literal next => exact absurd rfl (hnot next segments)
                | _ => rfl

end Segment

namespace Grammar

variable {g : Grammar}

/-- The segment that the body of a token stands for. -/
def bodySegment? (g : Grammar) (body : List Char) : Option Segment :=
  match g.readToken body with
  | .segment segment => some segment
  | .blank => none
  | .noPath => none

def segmentsOf (g : Grammar) : Piece → List Segment
  | .literal text => [.literal (String.ofList text)]
  | .token body => (g.bodySegment? body).toList

theorem result_classify (g : Grammar) (body : List Char) (voice : Voice) :
    (g.classify body).result voice = .ok (g.bodySegment? body) := by
  unfold classify bodySegment?
  cases g.readToken body <;> simp

theorem isLiteral_of_bodySegment? {body : List Char} {s : Segment}
    (h : g.bodySegment? body = some s) : s.isLiteral = false := by
  unfold bodySegment? readToken readValue at h
  split at h
  · next hread =>
      cases h
      split at hread
      · cases hread
        rfl
      · split at hread
        · cases hread
          rfl
        · simp only at hread
          split at hread
          · cases hread
          · split at hread
            · cases hread
            · cases hread
              rfl
  · cases h
  · cases h

/-- The pieces of a scanned text are classified one by one, and the segments are joined. -/
theorem result_classifyAll (g : Grammar) (pieces : List Piece) (voice : Voice) :
    (g.classifyAll pieces).result voice =
      .ok (Segment.joinLiterals (pieces.flatMap g.segmentsOf)) := by
  suffices h : ∃ segments, (g.classifyAll pieces).result voice = .ok segments ∧
      Segment.IsJoined segments ∧
        segments.flatMap Segment.atoms = (pieces.flatMap g.segmentsOf).flatMap Segment.atoms by
    obtain ⟨segments, hresult, hjoined, hatoms⟩ := h
    rw [hresult]
    congr 1
    refine Segment.eq_of_atoms_eq hjoined (Segment.isJoined_joinLiterals _) ?_
    rw [hatoms, Segment.atoms_joinLiterals]
  induction pieces with
  | nil =>
      exact ⟨[], rfl, Segment.isJoined_nil, rfl⟩
  | cons piece pieces ih =>
      obtain ⟨segments, hresult, hjoined, hatoms⟩ := ih
      cases piece with
      | literal text =>
          refine ⟨Segment.consLiteral text segments, ?_, Segment.isJoined_consLiteral hjoined, ?_⟩
          · simp [classifyAll, hresult]
          · rw [Segment.atoms_consLiteral, hatoms]
            simp [segmentsOf, Segment.atoms]
      | token body =>
          refine ⟨(g.bodySegment? body).toList ++ segments, ?_, ?_, ?_⟩
          · simp [classifyAll, result_classify, hresult]
          · cases hs : g.bodySegment? body with
            | none => exact hjoined
            | some s =>
                exact Segment.isJoined_cons_of_not_literal (isLiteral_of_bodySegment? hs) hjoined
          · simp [segmentsOf, hatoms]

end Grammar
end Stencil
