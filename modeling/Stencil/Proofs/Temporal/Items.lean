import Stencil.Data.Format
import Stencil.Proofs.Text.Front
import Mathlib.Data.List.Chain

/-!
# Items of date patterns

A pattern is a sequence of complete items, no two neighbours of which are runs of one letter, and perhaps one item that
only the end of the pattern ends (`Item.IsSequence`). Reading and writing are inverse to each other on such sequences:

* the items that are written are the ones that are read (`Item.IsSequence.items_writeAll`);
* every text is what some sequence writes, namely its own items (`writeAll_items`, `exists_isSequence_items`).

So a pattern shows what its items show, each by itself (`pattern_shows_its_items`).
-/

namespace Stencil
namespace Temporal

open Text (head?_dropWhile_eq_some takeWhile_dropWhile_append)

namespace Item

/-- An item that ends by itself: a run of a specifier letter, a text between quotation marks of a kind that it does not
hold, a character after a backslash, a per cent sign, or a character that stands for itself. -/
def IsComplete : Item → Prop
  | run letter count => isSpecifier letter = true ∧ 0 < count
  | quoted mark text => isQuotationMark mark = true ∧ mark ∉ text
  | escaped _ | percent => True
  | bare c => isQuotationMark c = false ∧ c ≠ '\\' ∧ c ≠ '%' ∧ isSpecifier c = false
  | unclosed _ _ | loneBackslash => False

/-- An item that only the end of the pattern ends: a quotation that is never closed, or a backslash before nothing. -/
def IsUnfinished : Item → Prop
  | unclosed mark text => isQuotationMark mark = true ∧ mark ∉ text
  | loneBackslash => True
  | _ => False

/-- Two items that can stand next to each other, for they are not two runs of the same letter. -/
def KeepsApart : Item → Item → Prop
  | run letter _, run other _ => letter ≠ other
  | _, _ => True

instance : (item : Item) → Decidable item.IsComplete
  | run _ _ | quoted _ _ | bare _ => instDecidableAnd
  | escaped _ | percent => instDecidableTrue
  | unclosed _ _ | loneBackslash => instDecidableFalse

instance : (item : Item) → Decidable item.IsUnfinished
  | unclosed _ _ => instDecidableAnd
  | loneBackslash => instDecidableTrue
  | run _ _ | quoted _ _ | escaped _ | percent | bare _ => instDecidableFalse

instance : (item next : Item) → Decidable (KeepsApart item next)
  | run letter _, run other _ => inferInstanceAs (Decidable (letter ≠ other))
  | run _ _, quoted _ _ | run _ _, unclosed _ _ | run _ _, escaped _ | run _ _, loneBackslash
  | run _ _, percent | run _ _, bare _ => instDecidableTrue
  | quoted _ _, _ | unclosed _ _, _ | escaped _, _ | loneBackslash, _ | percent, _ | bare _, _ => instDecidableTrue

def writeAll (items : List Item) : List Char :=
  items.flatMap write

/-- The items of a pattern: complete ones, which keep apart, and perhaps an unfinished one behind them. -/
structure IsSequence (body : List Item) (ending : Option Item) : Prop where
  complete : ∀ item, item ∈ body → item.IsComplete
  apart : body.IsChain KeepsApart
  unfinished : ∀ item, item ∈ ending → item.IsUnfinished

instance (body : List Item) (ending : Option Item) : Decidable (IsSequence body ending) :=
  decidable_of_iff
    ((∀ item, item ∈ body → item.IsComplete) ∧ body.IsChain KeepsApart ∧ ∀ item, item ∈ ending → item.IsUnfinished)
    ⟨fun h => ⟨h.1, h.2.1, h.2.2⟩, fun h => ⟨h.complete, h.apart, h.unfinished⟩⟩

end Item

/-! ## Reading one item -/

section Reading

variable {c letter mark : Char} {text rest : List Char}

theorem isQuotationMark_of_isSpecifier (h : isSpecifier letter = true) : isQuotationMark letter = false := by
  cases hmark : isQuotationMark letter with
  | false => rfl
  | true =>
      rw [isQuotationMark, Bool.or_eq_true, decide_eq_true_iff, decide_eq_true_iff] at hmark
      obtain rfl | rfl := hmark <;> exact absurd h (by decide)

theorem ne_of_isSpecifier (h : isSpecifier letter = true) : letter ≠ '\\' ∧ letter ≠ '%' := by
  constructor <;> rintro rfl <;> exact absurd h (by decide)

theorem items_quoted (hmark : isQuotationMark mark = true) (htext : mark ∉ text) (rest : List Char) :
    items (mark :: (text ++ mark :: rest)) = .quoted mark text :: items rest := by
  have hkind : ∀ c, c ∈ text → decide (c ≠ mark) = true := by
    intro c hc
    exact decide_eq_true fun heq => htext (heq ▸ hc)
  have hbehind : ∀ c, (mark :: rest).head? = some c → decide (c ≠ mark) = false := by
    rintro c ⟨⟩
    exact decide_eq_false fun hne => hne rfl
  obtain ⟨htake, hdrop⟩ := takeWhile_dropWhile_append hkind hbehind
  rw [items.eq_def]
  dsimp only
  rw [if_pos hmark]
  split
  · next hnone =>
      rw [hdrop] at hnone
      cases hnone
  · next hsome =>
      rw [hdrop, List.cons.injEq] at hsome
      rw [htake, hsome.2]

theorem items_unclosed (hmark : isQuotationMark mark = true) (htext : mark ∉ text) :
    items (mark :: text) = [.unclosed mark text] := by
  have hdrop : text.dropWhile (· ≠ mark) = [] := by
    rw [List.dropWhile_eq_nil_iff]
    intro c hc
    exact decide_eq_true fun heq => htext (heq ▸ hc)
  rw [items.eq_def]
  dsimp only
  rw [if_pos hmark]
  split
  · rfl
  · next hsome =>
      rw [hdrop] at hsome
      cases hsome

theorem items_escaped (c : Char) (rest : List Char) : items ('\\' :: c :: rest) = .escaped c :: items rest := by
  rw [items.eq_def]
  rfl

theorem items_percent (rest : List Char) : items ('%' :: rest) = .percent :: items rest := by
  rw [items.eq_def]
  rfl

/-- A run ends where its letter does. -/
theorem items_run (hletter : isSpecifier letter = true) (count : Nat) (hrest : rest.head? ≠ some letter) :
    items (List.replicate (count + 1) letter ++ rest) = .run letter (count + 1) :: items rest := by
  have hkind : ∀ c, c ∈ List.replicate count letter → decide (c = letter) = true := by
    intro c hc
    exact decide_eq_true (List.eq_of_mem_replicate hc)
  have hbehind : ∀ c, rest.head? = some c → decide (c = letter) = false := by
    intro c hc
    exact decide_eq_false fun heq => hrest (heq ▸ hc)
  obtain ⟨htake, hdrop⟩ := takeWhile_dropWhile_append hkind hbehind
  obtain ⟨hbackslash, hpercent⟩ := ne_of_isSpecifier hletter
  have hmark := isQuotationMark_of_isSpecifier hletter
  rw [List.replicate_succ, List.cons_append, items.eq_def]
  dsimp only
  rw [if_neg (Bool.not_eq_true _ ▸ hmark), if_neg hbackslash, if_neg hpercent, if_pos hletter, htake, hdrop,
    List.length_replicate, Nat.add_comm]

theorem items_bare (h : (Item.bare c).IsComplete) (rest : List Char) : items (c :: rest) = .bare c :: items rest := by
  obtain ⟨hmark, hbackslash, hpercent, hspecifier⟩ := h
  rw [items.eq_def]
  dsimp only
  rw [if_neg (Bool.not_eq_true _ ▸ hmark), if_neg hbackslash, if_neg hpercent,
    if_neg (Bool.not_eq_true _ ▸ hspecifier)]

end Reading

namespace Item

variable {item : Item} {body : List Item} {ending : Option Item}

/-- A complete item is read before anything that does not go on with it. -/
theorem IsComplete.items_write_append (h : item.IsComplete) {rest : List Char}
    (hrest : ∀ letter count, item = run letter count → rest.head? ≠ some letter) :
    items (item.write ++ rest) = item :: items rest := by
  cases item with
  | run letter count =>
      obtain ⟨hletter, hcount⟩ := h
      obtain ⟨count, rfl⟩ := Nat.exists_eq_succ_of_ne_zero hcount.ne'
      exact items_run hletter count (hrest letter _ rfl)
  | quoted mark text =>
      rw [write, List.cons_append, List.cons_append, List.append_assoc]
      exact items_quoted h.1 h.2 rest
  | escaped c => exact items_escaped c rest
  | percent => exact items_percent rest
  | bare c => exact items_bare h rest
  | unclosed mark text => exact h.elim
  | loneBackslash => exact h.elim

theorem IsUnfinished.items_write (h : item.IsUnfinished) : items item.write = [item] := by
  cases item with
  | unclosed mark text => exact items_unclosed h.1 h.2
  | loneBackslash =>
      rw [write, items.eq_def]
      rfl
  | _ => exact h.elim

/-- Only a run starts with a specifier letter. -/
theorem exists_run_of_head?_write (h : item.IsComplete ∨ item.IsUnfinished) {letter : Char}
    (hletter : isSpecifier letter = true) {rest : List Char} (hhead : (item.write ++ rest).head? = some letter) :
    ∃ count, item = run letter count := by
  cases item with
  | run other count =>
      have hcount : 0 < count := h.elim And.right False.elim
      obtain ⟨count, rfl⟩ := Nat.exists_eq_succ_of_ne_zero hcount.ne'
      cases hhead
      exact ⟨_, rfl⟩
  | quoted mark text =>
      cases hhead
      have hmark := h.elim And.left False.elim
      rw [isQuotationMark_of_isSpecifier hletter] at hmark
      cases hmark
  | unclosed mark text =>
      cases hhead
      have hmark := h.elim False.elim And.left
      rw [isQuotationMark_of_isSpecifier hletter] at hmark
      cases hmark
  | bare c =>
      cases hhead
      obtain ⟨-, -, -, hbare⟩ | hnot := h
      · rw [hletter] at hbare
        cases hbare
      · exact hnot.elim
  | escaped _ | loneBackslash | percent =>
      cases hhead
      exact absurd hletter (by decide)

/-! ## Sequences -/

theorem writeAll_cons (item : Item) (items : List Item) : writeAll (item :: items) = item.write ++ writeAll items :=
  rfl

theorem isSequence_nil : IsSequence [] none :=
  ⟨nofun, .nil, nofun⟩

theorem IsUnfinished.isSequence (h : item.IsUnfinished) : IsSequence [] (some item) := by
  refine ⟨nofun, .nil, ?_⟩
  rintro other ⟨⟩
  exact h

theorem IsSequence.complete_or_unfinished (h : IsSequence body ending) :
    ∀ item, item ∈ body ++ ending.toList → item.IsComplete ∨ item.IsUnfinished := by
  intro item hitem
  rw [List.mem_append, Option.mem_toList] at hitem
  exact hitem.imp (h.complete item) (h.unfinished item)

/-- A complete item can stand before a sequence if it is no run, or if what is written behind it does not go on with its
letter. -/
theorem isSequence_cons_iff : IsSequence (item :: body) ending ↔ item.IsComplete ∧ IsSequence body ending ∧
    ∀ letter count, item = run letter count → (writeAll (body ++ ending.toList)).head? ≠ some letter := by
  constructor
  · intro h
    have hitem := h.complete item List.mem_cons_self
    obtain ⟨hnext, hapart⟩ := List.isChain_cons.mp h.apart
    have hbody : IsSequence body ending :=
      ⟨fun other hother => h.complete other (List.mem_cons_of_mem _ hother), hapart, h.unfinished⟩
    refine ⟨hitem, hbody, ?_⟩
    rintro letter count rfl hhead
    cases body with
    | nil =>
        cases ending with
        | none => cases hhead
        | some last =>
            have hlast := h.unfinished last rfl
            obtain ⟨other, rfl⟩ := exists_run_of_head?_write (.inr hlast) hitem.1 hhead
            exact hlast
    | cons next body =>
        have hcomplete := hbody.complete next List.mem_cons_self
        obtain ⟨other, rfl⟩ := exists_run_of_head?_write (.inl hcomplete) hitem.1 hhead
        exact hnext _ rfl rfl
  · rintro ⟨hitem, hbody, hrest⟩
    refine ⟨List.forall_mem_cons.mpr ⟨hitem, hbody.complete⟩, List.isChain_cons.mpr ⟨?_, hbody.apart⟩, hbody.unfinished⟩
    intro next hnext
    obtain ⟨others, rfl⟩ := List.head?_eq_some_iff.mp hnext
    have hcomplete := hbody.complete next List.mem_cons_self
    cases item with
    | run letter count =>
        cases next with
        | run other more =>
            obtain ⟨more, rfl⟩ := Nat.exists_eq_succ_of_ne_zero hcomplete.2.ne'
            rintro rfl
            exact hrest _ _ rfl rfl
        | _ => trivial
    | _ => trivial

/-- The items that are read are the ones that were written. -/
theorem IsSequence.items_writeAll (h : IsSequence body ending) :
    items (writeAll (body ++ ending.toList)) = body ++ ending.toList := by
  induction body with
  | nil =>
      cases ending with
      | none => exact items.eq_1
      | some item =>
          rw [Option.toList_some, List.nil_append, writeAll, List.flatMap_singleton]
          exact (h.unfinished item rfl).items_write
  | cons item body ih =>
      obtain ⟨hitem, hbody, hrest⟩ := isSequence_cons_iff.mp h
      rw [List.cons_append, writeAll_cons, hitem.items_write_append hrest, ih hbody]

end Item

open Item (writeAll writeAll_cons IsSequence isSequence_nil isSequence_cons_iff)

/-- What is written by the items of a text is the text. -/
theorem writeAll_items (text : List Char) : writeAll (items text) = text := by
  fun_induction items text with
  | case1 => rfl
  | case2 c rest hmark hnone => exact List.append_nil _
  | case3 c rest hmark mark after hsome ih =>
      have hfirst : (rest.dropWhile (· ≠ c)).head? = some mark := by
        rw [hsome]
        rfl
      obtain rfl : mark = c := by simpa using head?_dropWhile_eq_some hfirst
      rw [writeAll_cons, ih, Item.write, List.append_assoc, List.cons_append, List.singleton_append, ← hsome,
        List.takeWhile_append_dropWhile]
  | case4 h => rfl
  | case5 c rest h ih => rw [writeAll_cons, ih, Item.write, List.cons_append, List.singleton_append]
  | case6 rest h hbackslash ih => rw [writeAll_cons, ih, Item.write, List.singleton_append]
  | case7 c rest h hbackslash hpercent hletter ih =>
      have hfront : List.replicate (rest.takeWhile (· = c)).length c = rest.takeWhile (· = c) := by
        refine (List.eq_replicate_of_mem fun other hother => ?_).symm
        simpa using List.mem_takeWhile_imp hother
      rw [writeAll_cons, ih, Item.write, Nat.add_comm, List.replicate_succ, hfront, List.cons_append,
        List.takeWhile_append_dropWhile]
  | case8 c rest h hbackslash hpercent hletter ih => rw [writeAll_cons, ih, Item.write, List.singleton_append]

/-- Every text is read as a sequence. -/
theorem exists_isSequence_items (text : List Char) :
    ∃ body ending, items text = body ++ ending.toList ∧ IsSequence body ending := by
  -- an item that is no run can stand before any sequence
  have hbefore : ∀ {item : Item} {text : List Char}, item.IsComplete →
      (∀ letter count, item = .run letter count → text.head? ≠ some letter) →
      (∃ body ending, items text = body ++ ending.toList ∧ IsSequence body ending) →
      ∃ body ending, item :: items text = body ++ ending.toList ∧ IsSequence body ending := by
    rintro item text hitem hrest ⟨body, ending, hitems, hbody⟩
    refine ⟨item :: body, ending, by rw [hitems, List.cons_append], isSequence_cons_iff.mpr ⟨hitem, hbody, ?_⟩⟩
    rwa [← hitems, writeAll_items]
  fun_induction items text with
  | case1 => exact ⟨[], none, rfl, isSequence_nil⟩
  | case2 c rest hmark hnone =>
      have hfree : c ∉ rest := fun hmem => by
        simpa using List.dropWhile_eq_nil_iff.mp hnone c hmem
      exact ⟨[], some (.unclosed c rest), rfl, Item.IsUnfinished.isSequence ⟨hmark, hfree⟩⟩
  | case3 c rest hmark mark after hsome ih =>
      refine hbefore ⟨hmark, fun hmem => ?_⟩ nofun ih
      simpa using List.mem_takeWhile_imp hmem
  | case4 h => exact ⟨[], some .loneBackslash, rfl, Item.IsUnfinished.isSequence trivial⟩
  | case5 c rest h ih => exact hbefore trivial nofun ih
  | case6 rest h hbackslash ih => exact hbefore trivial nofun ih
  | case7 c rest h hbackslash hpercent hletter ih =>
      refine hbefore ⟨hletter, Nat.one_add _ ▸ Nat.succ_pos _⟩ ?_ ih
      rintro letter count ⟨⟩ hhead
      simpa using head?_dropWhile_eq_some hhead
  | case8 c rest h hbackslash hpercent hletter ih =>
      exact hbefore ⟨Bool.not_eq_true _ ▸ h, hbackslash, hpercent, Bool.not_eq_true _ ▸ hletter⟩ nofun ih

/-! ## What a pattern shows -/

namespace Item

/-- What an item shows by itself. A run shows what the value shows in a pattern of a per cent sign and the run. -/
def shownBy (value : Value) : Item → Except Fault String
  | run letter count => value.format (String.ofList ('%' :: List.replicate count letter))
  | quoted _ text | unclosed _ text => pure (String.ofList text)
  | escaped c | bare c => pure (String.singleton c)
  | percent | loneBackslash => pure ""

end Item

namespace Moment

variable (moment : Moment)

/-- A pattern of at least two characters is read as items. -/
theorem format_of_two_le {pattern : String} (h : 2 ≤ pattern.toList.length) :
    moment.format pattern = .ok (String.ofList (moment.showPattern pattern.toList)) := by
  rw [format]
  split
  · next hnil =>
      rw [hnil] at h
      exact absurd h (by decide)
  · next hone =>
      rw [hone] at h
      exact absurd h (Nat.not_succ_le_self 1)
  · rfl

theorem showPattern_writeAll {body : List Item} {ending : Option Item} (h : IsSequence body ending) :
    moment.showPattern (writeAll (body ++ ending.toList)) = (body ++ ending.toList).flatMap moment.showItem := by
  rw [showPattern, h.items_writeAll]

/-- A sequence that takes at least two characters to write shows what its items show. -/
theorem format_writeAll {body : List Item} {ending : Option Item} (h : IsSequence body ending)
    (hlength : 2 ≤ (writeAll (body ++ ending.toList)).length) :
    moment.format (String.ofList (writeAll (body ++ ending.toList))) =
      .ok (String.ofList ((body ++ ending.toList).flatMap moment.showItem)) := by
  have hpattern : 2 ≤ (String.ofList (writeAll (body ++ ending.toList))).toList.length := by
    rwa [String.toList_ofList]
  rw [moment.format_of_two_le hpattern, String.toList_ofList, moment.showPattern_writeAll h]

section Runs

variable {letter : Char} {count : Nat}

/-- A run of at least two letters can stand alone. -/
theorem format_run (hletter : isSpecifier letter = true) (hcount : 2 ≤ count) :
    moment.format (String.ofList (List.replicate count letter)) = .ok (String.ofList (moment.showRun letter count)) := by
  have hrun : (Item.run letter count).IsComplete := ⟨hletter, Nat.lt_of_lt_of_le Nat.two_pos hcount⟩
  have hsequence : IsSequence [.run letter count] none :=
    isSequence_cons_iff.mpr ⟨hrun, isSequence_nil, fun _ _ _ => nofun⟩
  have hwritten : writeAll ([.run letter count] ++ Option.toList none) = List.replicate count letter :=
    List.append_nil _
  have hshown := moment.format_writeAll hsequence (by rwa [hwritten, List.length_replicate])
  rw [hwritten] at hshown
  exact hshown.trans (congrArg (Except.ok ∘ String.ofList) (List.append_nil _))

/-- A per cent sign before a run shows nothing, and a run of one letter then stands in a pattern of two characters. -/
theorem format_percent_run (h : (Item.run letter count).IsComplete) :
    moment.format (String.ofList ('%' :: List.replicate count letter)) =
      .ok (String.ofList (moment.showRun letter count)) := by
  have hsequence : IsSequence [.percent, .run letter count] none :=
    isSequence_cons_iff.mpr ⟨trivial, isSequence_cons_iff.mpr ⟨h, isSequence_nil, fun _ _ _ => nofun⟩, nofun⟩
  have hwritten : writeAll ([.percent, .run letter count] ++ Option.toList none) = '%' :: List.replicate count letter :=
    congrArg ('%' :: ·) (List.append_nil _)
  have hshown := moment.format_writeAll hsequence
    (by rw [hwritten, List.length_cons, List.length_replicate]; exact Nat.succ_le_succ h.2)
  rw [hwritten] at hshown
  exact hshown.trans (congrArg (Except.ok ∘ String.ofList) (List.append_nil _))

end Runs

end Moment

section Showing

variable {value : Value} {moment : Moment}

theorem format_of_moment (hvalue : value.moment? = some moment) (pattern : String) :
    value.format pattern = moment.format pattern := by
  rw [Value.format, hvalue]

/-- An item shows the same by itself as in a pattern. -/
theorem shownBy_eq_ok (hvalue : value.moment? = some moment) {item : Item}
    (hitem : item.IsComplete ∨ item.IsUnfinished) :
    item.shownBy value = .ok (String.ofList (moment.showItem item)) := by
  cases item with
  | run letter count =>
      rw [Item.shownBy, format_of_moment hvalue]
      exact moment.format_percent_run (hitem.resolve_right id)
  | _ => rfl

theorem join_map_ofList {α : Type*} (shown : α → List Char) (parts : List α) :
    String.join (parts.map fun part => String.ofList (shown part)) = String.ofList (parts.flatMap shown) := by
  rw [← String.toList_inj, String.toList_join, List.flatMap_map, String.toList_ofList]
  simp only [String.toList_ofList]

/-- For every date, time of day and moment: whatever sequence of items a pattern of at least two characters is written by,
it shows what the items show by themselves, one behind the other; and every pattern is written by such a sequence. -/
theorem pattern_shows_its_items (hvalue : value.moment? = some moment) :
    (∀ body ending, IsSequence body ending → 2 ≤ (writeAll (body ++ ending.toList)).length →
      ∃ shown, List.Forall₂ (fun item text => item.shownBy value = .ok text) (body ++ ending.toList) shown ∧
        value.format (String.ofList (writeAll (body ++ ending.toList))) = .ok (String.join shown)) ∧
      ∀ pattern : String, ∃ body ending, IsSequence body ending ∧
        pattern = String.ofList (writeAll (body ++ ending.toList)) := by
  constructor
  · intro body ending h hlength
    refine ⟨(body ++ ending.toList).map fun item => String.ofList (moment.showItem item), ?_, ?_⟩
    · rw [List.forall₂_map_right_iff, List.forall₂_same]
      exact fun item hitem => shownBy_eq_ok hvalue (h.complete_or_unfinished item hitem)
    · rw [format_of_moment hvalue, moment.format_writeAll h hlength, join_map_ofList]
  · intro pattern
    obtain ⟨body, ending, hitems, h⟩ := exists_isSequence_items pattern.toList
    refine ⟨body, ending, h, ?_⟩
    rw [← hitems, writeAll_items, String.ofList_toList]

/-- A lone specifier, two runs of one letter with a per cent sign between them, a quotation that holds another mark, an escape
and an unclosed quotation. -/
theorem pattern_shows_its_items_of_time :
    let value := Value.time { clock := ⟨14, 5, 9, 123456, by decide, by decide, by decide, by decide⟩ }
    let body : List Item :=
      [.run 'H' 2, .bare ':', .run 'm' 2, .percent, .run 'm' 1, .quoted '"' ['\'', 'd'], .escaped 'd', .run 'F' 9]
    let ending := some (Item.unclosed '\'' ['%', 's', '"'])
    let pattern := "HH:mm%m\"'d\"\\dFFFFFFFFF'%s\""
    value.moment?.isSome ∧ IsSequence body ending ∧ writeAll (body ++ ending.toList) = pattern.toList ∧
      2 ≤ pattern.length ∧ value.format pattern = .ok "14:055'dd123456%s\"" ∧
      ∃ shown, List.Forall₂ (fun item text => item.shownBy value = .ok text) (body ++ ending.toList) shown ∧
        value.format pattern = .ok (String.join shown) := by
  intro value body ending pattern
  have hsequence : IsSequence body ending := by
    decide
  have hwritten : writeAll (body ++ ending.toList) = pattern.toList := by
    decide
  have hlength : 2 ≤ (writeAll (body ++ ending.toList)).length := by
    decide
  have hvalue : value.moment? = some _ := rfl
  have hshown := (pattern_shows_its_items hvalue).1 body ending hsequence hlength
  rw [hwritten, String.ofList_toList] at hshown
  refine ⟨rfl, hsequence, hwritten, by decide, ?_, hshown⟩
  with_unfolding_all decide

end Showing

end Temporal
end Stencil
