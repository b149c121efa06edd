import Stencil.Numeric.Grouping
import Mathlib.Data.List.Basic

/-!
# Grouped digits

The groups of a text, put together again, are the text. All but the first have the size asked for, and
the first has at most that size and is not empty unless the text is (`isGrouping_groups`). So a mark that is no character of
the text can be taken out of its grouped form again (`filter_grouped`), and cutting at the marks gives the groups
(`splitOn_grouped`).
-/

namespace Stencil
namespace Numeric

/-- A text cut into groups of one size, counted from its end, of which only the first may be shorter. -/
structure IsGrouping (size : Nat) (text : List Char) (groups : List (List Char)) : Prop where
  flatten_eq : groups.flatten = text
  length_of_mem_tail : ∀ group, group ∈ groups.tail → group.length = size
  length_le_of_head : ∀ group, groups.head? = some group → group.length ≤ size
  head_ne_nil : text ≠ [] → ∀ group, groups.head? = some group → group ≠ []

theorem groups_ne_nil (size : Nat) (text : List Char) : groups size text ≠ [] := by
  rw [groups]
  split
  · exact List.cons_ne_nil _ _
  · exact List.append_ne_nil_of_right_ne_nil _ (List.cons_ne_nil _ _)

/-- The groups of a text are a grouping of it. -/
theorem isGrouping_groups {size : Nat} (hsize : 0 < size) (text : List Char) :
    IsGrouping size text (groups size text) := by
  induction text using groups.induct size with
  | case1 text hshort =>
      rw [groups, dif_pos hshort]
      refine ⟨by simp, by simp, ?_, ?_⟩
      · rintro group hgroup
        cases hgroup
        omega
      · rintro htext group hgroup
        cases hgroup
        exact htext
  | case2 text hlong ih =>
      have hne : groups size (text.take (text.length - size)) ≠ [] := groups_ne_nil _ _
      have hfront : text.take (text.length - size) ≠ [] := by
        rw [← List.length_pos_iff, List.length_take]
        omega
      rw [groups, dif_neg hlong]
      refine ⟨?_, ?_, ?_, ?_⟩
      · rw [List.flatten_append, ih.flatten_eq, List.flatten_singleton, List.take_append_drop]
      · intro group hgroup
        rw [List.tail_append_of_ne_nil hne, List.mem_append, List.mem_singleton] at hgroup
        obtain hgroup | rfl := hgroup
        · exact ih.length_of_mem_tail group hgroup
        · rw [List.length_drop]
          omega
      · intro group hgroup
        rw [List.head?_append_of_ne_nil _ hne] at hgroup
        exact ih.length_le_of_head group hgroup
      · intro _ group hgroup
        rw [List.head?_append_of_ne_nil _ hne] at hgroup
        exact ih.head_ne_nil hfront group hgroup

/-- There are as many groups as the size is started in the text, and one for the empty text. -/
theorem length_groups {size : ℕ} (hsize : 0 < size) (text : List Char) :
    (groups size text).length = max 1 ((text.length + (size - 1)) / size) := by
  induction text using groups.induct size with
  | case1 text hshort =>
      have hfew : (text.length + (size - 1)) / size ≤ 1 := by
        rw [← Nat.lt_succ_iff, Nat.div_lt_iff_lt_mul hsize]
        omega
      rw [groups, dif_pos hshort, List.length_singleton, Nat.max_eq_left hfew]
  | case2 text hlong ih =>
      have hrest : 1 ≤ (text.length - size + (size - 1)) / size := by
        rw [Nat.le_div_iff_mul_le hsize]
        omega
      have hone : (text.length + (size - 1)) / size = (text.length - size + (size - 1)) / size + 1 := by
        rw [← Nat.add_div_right _ hsize]
        congr 1
        omega
      rw [groups, dif_neg hlong, List.length_append, List.length_singleton, ih, List.length_take,
        Nat.min_eq_left (Nat.sub_le _ _), hone, Nat.max_eq_right hrest, Nat.max_eq_right (by omega)]

/-- Where the marks between some texts are taken out, the texts follow each other. -/
theorem filter_intercalate {mark : Char} {texts : List (List Char)} (h : ∀ text, text ∈ texts → mark ∉ text) :
    ([mark].intercalate texts).filter (· ≠ mark) = texts.flatten := by
  induction texts with
  | nil => rfl
  | cons text texts ih =>
      rw [List.forall_mem_cons] at h
      have htext : text.filter (· ≠ mark) = text := by
        rw [List.filter_eq_self]
        rintro c hc
        simpa using fun hmark : c = mark => h.1 (hmark ▸ hc)
      cases texts with
      | nil => simpa using htext
      | cons next texts =>
          rw [List.intercalate_cons_cons, List.filter_append, List.filter_append, htext, ih h.2, List.flatten_cons]
          simp

section Marks

variable {size : ℕ} {mark : Char} {text : List Char}

/-- The characters of the groups are those of the text. -/
theorem not_mem_of_mem_groups (hsize : 0 < size) (h : mark ∉ text) :
    ∀ group, group ∈ groups size text → mark ∉ group := by
  intro group hgroup hmark
  apply h
  rw [← (isGrouping_groups hsize text).flatten_eq]
  exact List.mem_flatten_of_mem hgroup hmark

/-- Taking the marks out of a grouped text gives the text. -/
theorem filter_grouped (hsize : 0 < size) (h : mark ∉ text) :
    (grouped size mark text).filter (· ≠ mark) = text := by
  rw [grouped, filter_intercalate (not_mem_of_mem_groups hsize h), (isGrouping_groups hsize text).flatten_eq]

/-- Cutting a grouped text at its marks gives the groups. -/
theorem splitOn_grouped (hsize : 0 < size) (h : mark ∉ text) :
    (grouped size mark text).splitOn mark = groups size text :=
  List.splitOn_intercalate mark (not_mem_of_mem_groups hsize h) (groups_ne_nil size text)

end Marks

/-- For every text without a comma, so for digits of all kinds: the thousands of the text, cut at the commas, are pieces that
make up the text again. There is one for every started three characters, all but the first have three characters, and the
first has one to three of them, or none if the text is empty. So taking out the commas gives the text back, and no two such
texts have the same thousands. -/
theorem thousands_cut_into_threes {text : List Char} (h : ',' ∉ text) :
    let pieces := (thousands text).splitOn ','
    pieces.flatten = text ∧
      pieces.length = max 1 ((text.length + 2) / 3) ∧
      (∀ piece, piece ∈ pieces.tail → piece.length = 3) ∧
      (∃ first, pieces.head? = some first ∧ first.length ≤ 3 ∧ (first = [] ↔ text = [])) ∧
      (thousands text).filter (· ≠ ',') = text ∧
      ∀ other, ',' ∉ other → thousands other = thousands text → other = text := by
  intro pieces
  have hthree : 0 < 3 := by
    decide
  have hpieces : pieces = groups 3 text := splitOn_grouped hthree h
  obtain ⟨hflatten, htail, hhead, hne⟩ := isGrouping_groups hthree text
  have hremoved : (thousands text).filter (· ≠ ',') = text := filter_grouped hthree h
  rw [hpieces]
  refine ⟨hflatten, length_groups hthree text, htail, ?_, hremoved, ?_⟩
  · obtain ⟨first, rest, hcut⟩ := List.exists_cons_of_ne_nil (groups_ne_nil 3 text)
    rw [hcut] at hflatten hhead hne ⊢
    refine ⟨first, rfl, hhead first rfl, fun hnil => ?_, fun hnil => ?_⟩
    · by_contra htext
      exact hne htext first rfl hnil
    · rw [hnil, List.flatten_cons, List.append_eq_nil_iff] at hflatten
      exact hflatten.1
  · intro other hother heq
    calc
      other = (thousands other).filter (· ≠ ',') := (filter_grouped hthree hother).symm
      _ = text := by rw [heq, hremoved]

/-- Six digits make two groups of three, and no comma stands in front of them. -/
theorem thousands_cut_into_threes_of_six_digits :
    ',' ∉ "100000".toList ∧ thousands "100000".toList = "100,000".toList ∧
      (thousands "100000".toList).splitOn ',' = ["100".toList, "000".toList] ∧
      (thousands "100000".toList).filter (· ≠ ',') = "100000".toList ∧
      ∀ other, ',' ∉ other → thousands other = "100,000".toList → other = "100000".toList := by
  have hcomma : ',' ∉ "100000".toList := by
    decide
  have hshown : thousands "100000".toList = "100,000".toList := by
    with_unfolding_all rfl
  obtain ⟨-, -, -, -, hremoved, hinjective⟩ := thousands_cut_into_threes hcomma
  rw [hshown] at hremoved hinjective ⊢
  exact ⟨hcomma, rfl, by decide, hremoved, hinjective⟩

end Numeric
end Stencil
