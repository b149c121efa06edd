import Stencil.Text.Occurrence
import Mathlib.Data.List.Basic

/-!
# First and last occurrences

This module connects the two searches for a word with the relation `OccursAt`.

* `firstOccurrence?_eq_some_iff`, `firstOccurrence?_eq_none_iff`: the first search finds the place at
  which the word occurs while it occurs at no smaller one, and nothing exactly when it does not occur.
* `lastOccurrence?_spec`: the last search finds the place at which the word occurs while it occurs at no
  larger one, and nothing only if it does not occur.
* `occursAt_drop_iff`, `occursAt_take_iff`: occurrences in a part of a text are occurrences in the text.
-/

namespace Stencil
namespace Text

variable {word text : List Char}

instance (word text : List Char) (i : Nat) : Decidable (OccursAt word text i) :=
  inferInstanceAs (Decidable (_ ∧ _))

@[simp] theorem occursAt_zero :
    OccursAt word text 0 ↔ word <+: text := by
  simp [OccursAt]

@[simp] theorem occursAt_cons_succ (c : Char) (i : Nat) :
    OccursAt word (c :: text) (i + 1) ↔ OccursAt word text i := by
  simp [OccursAt]

theorem occursAt_nil_iff (i : Nat) :
    OccursAt word [] i ↔ i = 0 ∧ word = [] := by
  constructor
  · rintro ⟨hle, hstart⟩
    rw [List.drop_nil, List.prefix_nil] at hstart
    exact ⟨by simpa using hle, hstart⟩
  · rintro ⟨rfl, rfl⟩
    simp

/-- A single character occurs exactly where it stands. -/
theorem occursAt_singleton_iff (c : Char) (i : Nat) :
    OccursAt [c] text i ↔ text[i]? = some c := by
  induction text generalizing i with
  | nil =>
      simp [occursAt_nil_iff]
  | cons d text ih =>
      cases i with
      | zero =>
          simp [eq_comm]
      | succ i =>
          simpa using ih i

theorem OccursAt.add_length_le {i : Nat} (h : OccursAt word text i) :
    i + word.length ≤ text.length := by
  have hle := h.1
  have hlen := h.2.length_le
  rw [List.length_drop] at hlen
  omega

/-- Where a word occurs, its first character stands. -/
theorem OccursAt.getElem?_eq_head? {c : Char} {rest : List Char} {i : Nat} (h : OccursAt (c :: rest) text i) :
    text[i]? = some c := by
  obtain ⟨behind, hbehind⟩ := h.2
  rw [← List.head?_drop, ← hbehind]
  rfl

/-- The occurrences in the rest of a text are those in the text, counted from where the rest starts. -/
theorem occursAt_drop_iff {k : Nat} (hk : k ≤ text.length) (i : Nat) :
    OccursAt word (text.drop k) i ↔ OccursAt word text (k + i) := by
  unfold OccursAt
  rw [List.drop_drop, List.length_drop]
  constructor
  · rintro ⟨hle, hstart⟩
    exact ⟨by omega, hstart⟩
  · rintro ⟨hle, hstart⟩
    exact ⟨by omega, hstart⟩

/-- An occurrence that starts behind a place is one in what follows the place. -/
theorem OccursAt.drop {k i : Nat} (h : OccursAt word text i) (hk : k ≤ i) :
    OccursAt word (text.drop k) (i - k) := by
  rw [occursAt_drop_iff (Nat.le_trans hk h.1)]
  rwa [Nat.add_sub_cancel' hk]

/-- The occurrences in the start of a text are those that end within it. -/
theorem occursAt_take_iff {n : Nat} (hn : n ≤ text.length) (i : Nat) :
    OccursAt word (text.take n) i ↔ OccursAt word text i ∧ i + word.length ≤ n := by
  have hlen : (text.take n).length = n := List.length_take_of_le hn
  constructor
  · intro h
    have hend := h.add_length_le
    rw [hlen] at hend
    refine ⟨⟨by omega, ?_⟩, hend⟩
    have hstart := h.2
    rw [List.drop_take] at hstart
    exact hstart.trans (List.take_prefix _ _)
  · rintro ⟨⟨_, hstart⟩, hend⟩
    refine ⟨by omega, ?_⟩
    rw [List.drop_take]
    exact List.prefix_take_iff.mpr ⟨hstart, by omega⟩

/-! ## The first occurrence -/

theorem firstOccurrence?_cons_found {c : Char} (h : word <+: c :: text) :
    firstOccurrence? word (c :: text) = some 0 := by
  simp [firstOccurrence?, h]

theorem firstOccurrence?_cons_later {c : Char} (h : ¬ word <+: c :: text) :
    firstOccurrence? word (c :: text) = (firstOccurrence? word text).map (· + 1) := by
  simp [firstOccurrence?, h]

theorem firstOccurrence?_eq_none_iff :
    firstOccurrence? word text = none ↔ ∀ i, ¬ OccursAt word text i := by
  induction text with
  | nil =>
      simp [firstOccurrence?, occursAt_nil_iff]
  | cons c text ih =>
      by_cases hp : word <+: c :: text
      · rw [firstOccurrence?_cons_found hp]
        simp only [reduceCtorEq, false_iff]
        intro h
        exact h 0 (occursAt_zero.mpr hp)
      · rw [firstOccurrence?_cons_later hp, Option.map_eq_none_iff, ih]
        constructor
        · intro h i
          cases i with
          | zero => simpa using hp
          | succ i => simpa using h i
        · intro h i
          simpa using h (i + 1)

/-- The place that is found is the smallest one at which the word occurs. -/
theorem firstOccurrence?_eq_some_iff {i : Nat} :
    firstOccurrence? word text = some i ↔
      OccursAt word text i ∧ ∀ j, j < i → ¬ OccursAt word text j := by
  induction text generalizing i with
  | nil =>
      by_cases hw : word = []
      · subst hw
        simp only [firstOccurrence?, List.isEmpty_nil, if_true, Option.some.injEq, occursAt_nil_iff]
        constructor
        · rintro rfl
          exact ⟨⟨rfl, trivial⟩, fun j hj => by omega⟩
        · rintro ⟨⟨rfl, _⟩, _⟩
          rfl
      · simp [firstOccurrence?, occursAt_nil_iff, hw]
  | cons c text ih =>
      by_cases hp : word <+: c :: text
      · rw [firstOccurrence?_cons_found hp, Option.some.injEq]
        constructor
        · rintro rfl
          exact ⟨occursAt_zero.mpr hp, fun j hj => by omega⟩
        · rintro ⟨_, hfirst⟩
          by_contra hne
          exact hfirst 0 (by omega) (occursAt_zero.mpr hp)
      · rw [firstOccurrence?_cons_later hp, Option.map_eq_some_iff]
        constructor
        · rintro ⟨k, hk, rfl⟩
          obtain ⟨hoccurs, hfirst⟩ := ih.mp hk
          refine ⟨by simpa using hoccurs, ?_⟩
          intro j hj
          cases j with
          | zero => simpa using hp
          | succ j => simpa using hfirst j (by omega)
        · rintro ⟨hoccurs, hfirst⟩
          cases i with
          | zero => exact absurd (occursAt_zero.mp hoccurs) hp
          | succ i =>
              refine ⟨i, ih.mpr ⟨by simpa using hoccurs, ?_⟩, rfl⟩
              intro j hj
              simpa using hfirst (j + 1) (by omega)

/-! ## The last occurrence -/

theorem lastOccurrence?_cons_of_some {c : Char} {k : Nat} (h : lastOccurrence? word text = some k) :
    lastOccurrence? word (c :: text) = some (k + 1) := by
  simp [lastOccurrence?, h]

theorem lastOccurrence?_cons_of_none {c : Char} (h : lastOccurrence? word text = none) :
    lastOccurrence? word (c :: text) = if word <+: c :: text then some 0 else none := by
  simp [lastOccurrence?, h]

/-- The place that is found is the largest one at which the word occurs; if none is found, the word does
not occur. -/
theorem lastOccurrence?_spec (word text : List Char) :
    match lastOccurrence? word text with
    | some i => OccursAt word text i ∧ ∀ j, i < j → ¬ OccursAt word text j
    | none => ∀ i, ¬ OccursAt word text i := by
  induction text with
  | nil =>
      by_cases hw : word = []
      · subst hw
        simp only [lastOccurrence?, List.isEmpty_nil, if_true, occursAt_nil_iff]
        refine ⟨by simp, ?_⟩
        intro j hj hoccurs
        omega
      · simp [lastOccurrence?, occursAt_nil_iff, hw]
  | cons c text ih =>
      cases hlast : lastOccurrence? word text with
      | some k =>
          rw [hlast] at ih
          rw [lastOccurrence?_cons_of_some hlast]
          obtain ⟨hoccurs, hlargest⟩ := ih
          refine ⟨by simpa using hoccurs, ?_⟩
          intro j hj
          cases j with
          | zero => omega
          | succ j => simpa using hlargest j (by omega)
      | none =>
          rw [hlast] at ih
          rw [lastOccurrence?_cons_of_none hlast]
          by_cases hp : word <+: c :: text
          · rw [if_pos hp]
            refine ⟨occursAt_zero.mpr hp, ?_⟩
            intro j hj
            cases j with
            | zero => omega
            | succ j => simpa using ih j
          · rw [if_neg hp]
            intro i
            cases i with
            | zero => simpa using hp
            | succ i => simpa using ih i

theorem lastOccurrence?_eq_some {i : Nat} (h : lastOccurrence? word text = some i) :
    OccursAt word text i ∧ ∀ j, i < j → ¬ OccursAt word text j := by
  have hspec := lastOccurrence?_spec word text
  rw [h] at hspec
  exact hspec

theorem lastOccurrence?_eq_none (h : lastOccurrence? word text = none) (i : Nat) :
    ¬ OccursAt word text i := by
  have hspec := lastOccurrence?_spec word text
  rw [h] at hspec
  exact hspec i

/-! ## Occurrences in a part of a text -/

/-- The first occurrence behind a place, counted in the whole text. -/
theorem firstOccurrence?_drop_eq_some {k i : Nat} (hk : k ≤ text.length)
    (h : firstOccurrence? word (text.drop k) = some i) :
    OccursAt word text (k + i) ∧ ∀ j, k ≤ j → j < k + i → ¬ OccursAt word text j := by
  obtain ⟨hoccurs, hfirst⟩ := firstOccurrence?_eq_some_iff.mp h
  refine ⟨(occursAt_drop_iff hk i).mp hoccurs, ?_⟩
  intro j hlow hhigh hj
  exact hfirst (j - k) (by omega) (hj.drop hlow)

theorem firstOccurrence?_drop_eq_none {k : Nat} (h : firstOccurrence? word (text.drop k) = none)
    (j : Nat) (hj : k ≤ j) : ¬ OccursAt word text j := by
  intro hoccurs
  exact firstOccurrence?_eq_none_iff.mp h (j - k) (hoccurs.drop hj)

theorem occursAt_window_iff {k n : Nat} (hn : k + n ≤ text.length) (i : Nat) :
    OccursAt word ((text.drop k).take n) i ↔ OccursAt word text (k + i) ∧ i + word.length ≤ n := by
  rw [occursAt_take_iff (by rw [List.length_drop]; omega), occursAt_drop_iff (by omega)]

/-- The last occurrence between two places, counted in the whole text. -/
theorem lastOccurrence?_window_eq_some {k n i : Nat} (hn : k + n ≤ text.length)
    (h : lastOccurrence? word ((text.drop k).take n) = some i) :
    OccursAt word text (k + i) ∧ i + word.length ≤ n ∧
      ∀ j, k + i < j → j + word.length ≤ k + n → ¬ OccursAt word text j := by
  obtain ⟨hoccurs, hlargest⟩ := lastOccurrence?_eq_some h
  obtain ⟨hoccurs', hfits⟩ := (occursAt_window_iff hn i).mp hoccurs
  refine ⟨hoccurs', hfits, ?_⟩
  intro j hlow hhigh hj
  apply hlargest (j - k) (by omega)
  rw [occursAt_window_iff hn]
  refine ⟨?_, by omega⟩
  rwa [Nat.add_sub_cancel' (by omega)]

theorem lastOccurrence?_window_eq_none {k n : Nat} (hn : k + n ≤ text.length)
    (h : lastOccurrence? word ((text.drop k).take n) = none) (j : Nat) (hlow : k ≤ j)
    (hhigh : j + word.length ≤ k + n) : ¬ OccursAt word text j := by
  intro hj
  apply lastOccurrence?_eq_none h (j - k)
  rw [occursAt_window_iff hn]
  refine ⟨?_, by omega⟩
  rwa [Nat.add_sub_cancel' hlow]

end Text
end Stencil
