import Stencil.Numeric.Picture
import Stencil.Proofs.Text.Front

/-!
# The core of a picture

A core is a run of places, commas and points that starts with a place, or that starts with a point and ends with a place.
Of all cores in a text, pictures take the one that starts first, and of those that start there the longest
(`Picture.IsCore`); reading a text finds it, if there is one (`splitCore?_eq_some_iff`).
-/

namespace Stencil
namespace Numeric
namespace Picture

/-- What a core can look like. -/
structure IsCoreText (text : List Char) : Prop where
  continues : ∀ c, c ∈ text → continuesCore c = true
  starts : (∃ c, text.head? = some c ∧ isPlace c = true) ∨
    text.head? = some '.' ∧ ∃ c, text.getLast? = some c ∧ isPlace c = true

/-- A text cut before and after the core that a picture takes: the first one, and of those the longest. -/
structure IsCore (text before core after : List Char) : Prop where
  text_eq : text = before ++ core ++ after
  isCoreText : IsCoreText core
  isFirst : ∀ front other back, text = front ++ other ++ back → IsCoreText other →
    before.length ≤ front.length
  isLongest : ∀ other back, core ++ after = other ++ back → IsCoreText other →
    other.length ≤ core.length

/-- There is at most one way to cut a text at its core. -/
theorem IsCore.unique {text before core after front middle back : List Char}
    (h : IsCore text before core after) (h' : IsCore text front middle back) :
    before = front ∧ core = middle ∧ after = back := by
  have hlength : before.length = front.length :=
    le_antisymm (h.isFirst _ _ _ h'.text_eq h'.isCoreText) (h'.isFirst _ _ _ h.text_eq h.isCoreText)
  have htext : before ++ (core ++ after) = front ++ (middle ++ back) := by
    rw [← List.append_assoc, ← List.append_assoc, ← h.text_eq, ← h'.text_eq]
  obtain ⟨rfl, hrest⟩ := List.append_inj htext hlength
  have hcore : core.length = middle.length :=
    le_antisymm (h'.isLongest _ _ hrest.symm h.isCoreText) (h.isLongest _ _ hrest h'.isCoreText)
  obtain ⟨rfl, rfl⟩ := List.append_inj hrest hcore
  exact ⟨rfl, rfl, rfl⟩

theorem IsCoreText.ne_nil {text : List Char} (h : IsCoreText text) : text ≠ [] := by
  rintro rfl
  obtain ⟨c, hc, _⟩ | ⟨hc, _⟩ := h.starts
  · cases hc
  · cases hc

/-! ## Up to the last place -/

theorem exists_upToLastPlace_append (run : List Char) :
    ∃ rest, run = upToLastPlace run ++ rest ∧ ∀ c, c ∈ rest → isPlace c = false := by
  refine ⟨(run.reverse.takeWhile fun c => !isPlace c).reverse, ?_, ?_⟩
  · rw [upToLastPlace, ← List.reverse_append, List.takeWhile_append_dropWhile, List.reverse_reverse]
  · intro c hc
    simpa using List.mem_takeWhile_imp (List.mem_reverse.mp hc)

theorem upToLastPlace_prefix (run : List Char) : upToLastPlace run <+: run := by
  obtain ⟨rest, hrun, _⟩ := exists_upToLastPlace_append run
  exact ⟨rest, hrun.symm⟩

theorem isPlace_of_getLast?_upToLastPlace {run : List Char} {c : Char}
    (h : (upToLastPlace run).getLast? = some c) : isPlace c = true := by
  rw [upToLastPlace, List.getLast?_reverse] at h
  simpa using Text.head?_dropWhile_eq_some h

/-- No front of a run that ends with a place goes behind the last place. -/
theorem length_le_upToLastPlace {run front back : List Char} {c : Char} (h : run = front ++ back)
    (hlast : front.getLast? = some c) (hc : isPlace c = true) : front.length ≤ (upToLastPlace run).length := by
  obtain ⟨rest, hrun, hrest⟩ := exists_upToLastPlace_append run
  have hcuts : front ++ back = upToLastPlace run ++ rest := h.symm.trans hrun
  obtain ⟨more, hmore, _⟩ | ⟨more, hmore, hback⟩ := List.append_eq_append_iff.mp hcuts
  · rw [hmore, List.length_append]
    exact Nat.le_add_right _ _
  · cases hmoreLast : more.getLast? with
    | none =>
        rw [List.getLast?_eq_none_iff] at hmoreLast
        rw [hmore, hmoreLast, List.append_nil]
    | some last =>
        -- the front would end with a character behind the last place
        rw [hmore, List.getLast?_append, hmoreLast, Option.some_or] at hlast
        cases hlast
        have hmem : c ∈ rest := by
          rw [hback]
          exact List.mem_append_left _ (List.mem_of_getLast? hmoreLast)
        have hnot := hrest c hmem
        rw [hc] at hnot
        cases hnot

/-! ## Finding the core -/

/-- If a text starts with no core, a core of the text is one of what is behind its first character. -/
theorem IsCore.cons {c : Char} {text before core after : List Char} (h : IsCore text before core after)
    (hnone : ∀ other back, c :: text = other ++ back → ¬ IsCoreText other) :
    IsCore (c :: text) (c :: before) core after := by
  refine ⟨by simp [h.text_eq], h.isCoreText, ?_, h.isLongest⟩
  intro front other back htext hother
  cases front with
  | nil => exact absurd hother (hnone other back htext)
  | cons first front =>
      rw [List.cons_append, List.cons_append, List.cons.injEq] at htext
      exact Nat.succ_le_succ (h.isFirst front other back htext.2 hother)

/-- A core at the start of a text is the one that is taken, if it is the longest there. -/
theorem IsCore.of_front {text core after : List Char} (htext : text = core ++ after) (hcore : IsCoreText core)
    (hlongest : ∀ other back, text = other ++ back → IsCoreText other → other.length ≤ core.length) :
    IsCore text [] core after := by
  subst htext
  exact ⟨rfl, hcore, fun _ _ _ _ _ => Nat.zero_le _, hlongest⟩

/-- A core that starts with a point goes on with characters of cores, and ends with a place. -/
theorem IsCoreText.of_point {text : List Char} (h : IsCoreText ('.' :: text)) :
    (∀ c, c ∈ text → continuesCore c = true) ∧ ∃ c, text.getLast? = some c ∧ isPlace c = true := by
  refine ⟨fun c hc => h.continues c (List.mem_cons_of_mem _ hc), ?_⟩
  obtain ⟨c, hc, hplace⟩ | ⟨_, c, hc, hplace⟩ := h.starts
  · cases hc
    cases hplace
  · cases text with
    | nil =>
        cases hc
        cases hplace
    | cons first text =>
        rw [List.getLast?_cons_cons] at hc
        exact ⟨c, hc, hplace⟩

section Front

variable {c : Char} {text : List Char}

theorem continuesCore_of_isPlace (h : isPlace c = true) : continuesCore c = true := by
  rw [continuesCore, h]
  rfl

/-- A place starts a core, which goes on as far as it can. -/
theorem isCore_of_place (hc : isPlace c = true) :
    IsCore (c :: text) [] (c :: text.takeWhile continuesCore) (text.dropWhile continuesCore) := by
  have hfront : (c :: text).takeWhile continuesCore = c :: text.takeWhile continuesCore := by
    rw [List.takeWhile_cons, if_pos (continuesCore_of_isPlace hc)]
  have htext : c :: text = (c :: text.takeWhile continuesCore) ++ text.dropWhile continuesCore := by
    rw [List.cons_append, List.takeWhile_append_dropWhile]
  have hlongest : Text.IsLongestFront continuesCore (c :: text) (c :: text.takeWhile continuesCore) :=
    hfront ▸ Text.isLongestFront_takeWhile
  have hcore : IsCoreText (c :: text.takeWhile continuesCore) := ⟨hlongest.isKind, .inl ⟨c, rfl, hc⟩⟩
  refine .of_front htext hcore ?_
  intro other back hother hcontinues
  exact (hlongest.isLongest other ⟨back, hother.symm⟩ hcontinues.continues).length_le

/-- What a text has of a core behind a point ends at the last place of its run. -/
theorem length_le_of_point {other back : List Char} (h : '.' :: text = other ++ back)
    (hother : IsCoreText other) :
    0 < (upToLastPlace (text.takeWhile continuesCore)).length ∧
      other.length ≤ (upToLastPlace (text.takeWhile continuesCore)).length + 1 := by
  cases other with
  | nil => exact absurd rfl hother.ne_nil
  | cons first other =>
      rw [List.cons_append, List.cons.injEq] at h
      obtain ⟨rfl, h⟩ := h
      obtain ⟨hcontinues, last, hlast, hplace⟩ := hother.of_point
      have hrun : text.takeWhile continuesCore = other ++ back.takeWhile continuesCore := by
        rw [h, List.takeWhile_append_of_pos hcontinues]
      have hlength := length_le_upToLastPlace hrun hlast hplace
      have hpos : 0 < other.length := by
        rw [List.length_pos_iff]
        rintro rfl
        cases hlast
      exact ⟨by omega, Nat.succ_le_succ hlength⟩

/-- A point starts a core that ends at the last place of its run, if there is one. -/
theorem isCore_of_point (hrun : upToLastPlace (text.takeWhile continuesCore) ≠ []) :
    IsCore ('.' :: text) [] ('.' :: upToLastPlace (text.takeWhile continuesCore))
      (text.drop (upToLastPlace (text.takeWhile continuesCore)).length) := by
  have hfront := upToLastPlace_prefix (text.takeWhile continuesCore)
  have htext := (List.prefix_iff_eq_append.mp (hfront.trans (List.takeWhile_prefix _))).symm
  refine .of_front (congrArg ('.' :: ·) htext) ⟨?_, .inr ⟨rfl, ?_⟩⟩ ?_
  · rw [List.forall_mem_cons]
    exact ⟨by decide, fun c hc => List.mem_takeWhile_imp (hfront.subset hc)⟩
  · have hlast := List.getLast?_eq_some_getLast hrun
    refine ⟨_, ?_, isPlace_of_getLast?_upToLastPlace hlast⟩
    rw [List.getLast?_cons, hlast]
    rfl
  · intro other back hother hcore
    exact (length_le_of_point hother hcore).2

/-- No other character starts a core. -/
theorem not_isCoreText_of_front (hc : isPlace c = false)
    (hrun : c = '.' → upToLastPlace (text.takeWhile continuesCore) = []) {other back : List Char}
    (h : c :: text = other ++ back) : ¬ IsCoreText other := by
  intro hother
  by_cases hpoint : c = '.'
  · subst hpoint
    have hpos := (length_le_of_point h hother).1
    rw [hrun rfl] at hpos
    cases hpos
  · cases other with
    | nil => exact hother.ne_nil rfl
    | cons first other =>
        rw [List.cons_append, List.cons.injEq] at h
        obtain ⟨rfl, -⟩ := h
        obtain ⟨first, hfirst, hplace⟩ | ⟨hfirst, _⟩ := hother.starts
        · cases hfirst
          rw [hc] at hplace
          cases hplace
        · exact hpoint (Option.some.inj hfirst)

end Front

/-- Reading a text finds its core, or there is none. -/
theorem splitCore?_spec (text : List Char) :
    (∀ before core after, splitCore? text = some (before, core, after) → IsCore text before core after) ∧
      (splitCore? text = none → ∀ front other back, text = front ++ other ++ back → ¬ IsCoreText other) := by
  induction text with
  | nil =>
      refine ⟨nofun, ?_⟩
      intro _ front other back h hother
      simp only [List.nil_eq, List.append_eq_nil_iff] at h
      exact hother.ne_nil h.1.2
  | cons c text ih =>
      rw [splitCore?]
      split
      · next hc =>
          refine ⟨?_, nofun⟩
          rintro before core after h
          cases h
          exact isCore_of_place hc
      · next hc =>
          dsimp only
          split
          · next hpoint =>
              rw [Bool.and_eq_true, decide_eq_true_eq, Bool.not_eq_true', List.isEmpty_eq_false_iff] at hpoint
              obtain ⟨rfl, hrun⟩ := hpoint
              refine ⟨?_, nofun⟩
              rintro before core after h
              cases h
              exact isCore_of_point hrun
          · next hpoint =>
              have hnone {other back : List Char} : c :: text = other ++ back → ¬ IsCoreText other := by
                refine not_isCoreText_of_front (by simpa using hc) ?_
                rintro rfl
                simpa using hpoint
              constructor
              · rintro before core after h
                obtain ⟨⟨front, middle, back⟩, hsplit, hcut⟩ := Option.map_eq_some_iff.mp h
                cases hcut
                exact (ih.1 front middle back hsplit).cons fun _ _ => hnone
              · intro h front other back htext
                rw [Option.map_eq_none_iff] at h
                cases front with
                | nil => exact hnone htext
                | cons first front =>
                    rw [List.cons_append, List.cons_append, List.cons.injEq] at htext
                    exact ih.2 h front other back htext.2

theorem splitCore?_eq_some_iff {text before core after : List Char} :
    splitCore? text = some (before, core, after) ↔ IsCore text before core after := by
  refine ⟨(splitCore?_spec text).1 before core after, ?_⟩
  intro h
  cases hsplit : splitCore? text with
  | none => exact absurd h.isCoreText ((splitCore?_spec text).2 hsplit before core after h.text_eq)
  | some found =>
      obtain ⟨front, middle, back⟩ := found
      obtain ⟨rfl, rfl, rfl⟩ := h.unique ((splitCore?_spec text).1 front middle back hsplit)
      rfl

end Picture
end Numeric
end Stencil
