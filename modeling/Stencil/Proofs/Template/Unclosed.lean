import Stencil.Proofs.Journal.Warnings
import Stencil.Proofs.Template.Parse

/-!
# Opening marks that are never closed

An opening mark is unclosed if it stands behind all closing marks of the text, or if there are none (`IsUnclosed`). A scan
reports the first one of these (`Grammar.unterminated_scan_eq_some_iff`): what is left of a text behind a token has the same
unclosed marks as the text. Nothing else is warned of when a template is read (`Grammar.parse_warns_of_first_unclosed`).
-/

namespace Stencil

section Places

variable (opening closing : Char)

/-- An opening mark stands at the place `k`, and all closing marks of the text stand in front of it. -/
def IsUnclosed (text : List Char) (k : Nat) : Prop :=
  text[k]? = some opening ∧ ∀ i, text[i]? = some closing → i < k

/-- The first opening mark behind all closing marks of the text stands at the place `k`. -/
def IsFirstUnclosed (text : List Char) (k : Nat) : Prop :=
  IsUnclosed opening closing text k ∧ ∀ j, j < k → ¬ IsUnclosed opening closing text j

instance (text : List Char) (k : Nat) : Decidable (IsUnclosed opening closing text k) :=
  decidable_of_iff
    (text[k]? = some opening ∧ ∀ i, i < text.length → text[i]? = some closing → i < k)
    (and_congr_right fun _ => forall_congr' fun _ =>
      ⟨fun h hi => h (List.getElem?_eq_some_iff.mp hi).1 hi, fun h _ hi => h hi⟩)

instance (text : List Char) (k : Nat) : Decidable (IsFirstUnclosed opening closing text k) :=
  inferInstanceAs (Decidable (_ ∧ _))

end Places

section Unclosed

variable {opening closing : Char} {text : List Char}

theorem IsFirstUnclosed.unique {j k : Nat} (hj : IsFirstUnclosed opening closing text j)
    (hk : IsFirstUnclosed opening closing text k) : j = k := by
  rcases Nat.lt_trichotomy j k with hlt | heq | hlt
  · exact absurd hj.1 (hk.2 j hlt)
  · exact heq
  · exact absurd hk.1 (hj.2 k hlt)

theorem IsUnclosed.exists_first {k : Nat} (h : IsUnclosed opening closing text k) :
    ∃ first, IsFirstUnclosed opening closing text first := by
  induction k using Nat.strong_induction_on with
  | _ k ih =>
      by_cases hearlier : ∃ j, j < k ∧ IsUnclosed opening closing text j
      · obtain ⟨j, hj, hunclosed⟩ := hearlier
        exact ih j hj hunclosed
      · exact ⟨k, h, fun j hj hunclosed => hearlier ⟨j, hj, hunclosed⟩⟩

/-- The unclosed marks of a text are those of what follows one of its closing marks. -/
theorem isUnclosed_iff_drop {e : Nat} (he : text[e]? = some closing) (k : Nat) :
    IsUnclosed opening closing text k ↔
      ∃ j, k = e + 1 + j ∧ IsUnclosed opening closing (text.drop (e + 1)) j := by
  unfold IsUnclosed
  simp only [List.getElem?_drop]
  constructor
  · rintro ⟨hk, hclosed⟩
    have hlt : e < k := hclosed e he
    refine ⟨k - (e + 1), by omega, ?_, ?_⟩
    · rwa [Nat.add_sub_cancel' (by omega)]
    · intro i hi
      have hbefore := hclosed _ hi
      omega
  · rintro ⟨j, rfl, hj, hclosed⟩
    refine ⟨hj, ?_⟩
    intro i hi
    by_cases hbehind : i < e + 1
    · omega
    · have hbefore := hclosed (i - (e + 1)) (by rwa [Nat.add_sub_cancel' (by omega)])
      omega

theorem isFirstUnclosed_iff_drop {e : Nat} (he : text[e]? = some closing) (k : Nat) :
    IsFirstUnclosed opening closing text k ↔
      ∃ j, k = e + 1 + j ∧ IsFirstUnclosed opening closing (text.drop (e + 1)) j := by
  constructor
  · rintro ⟨hk, hfirst⟩
    obtain ⟨j, rfl, hj⟩ := (isUnclosed_iff_drop he k).mp hk
    refine ⟨j, rfl, hj, ?_⟩
    intro i hlt hi
    exact hfirst (e + 1 + i) (by omega) ((isUnclosed_iff_drop he _).mpr ⟨i, rfl, hi⟩)
  · rintro ⟨j, rfl, hj, hfirst⟩
    refine ⟨(isUnclosed_iff_drop he _).mpr ⟨j, rfl, hj⟩, ?_⟩
    intro i hlt hi
    obtain ⟨rest, rfl, hrest⟩ := (isUnclosed_iff_drop he i).mp hi
    exact hfirst rest (by omega) hrest

end Unclosed

namespace Grammar

variable {g : Grammar} {opening closing : Char} {text : List Char}

/-! ## What a scan reports -/

/-- A first opening mark that no closing mark follows is the first unclosed one. -/
theorem isFirstUnclosed_of_cut (hm : g.HasMarks opening closing) {first : Nat}
    (h : g.cut text = .unterminated first) : IsFirstUnclosed opening closing text first := by
  obtain ⟨hopens, hnoOpen, hnoClose⟩ := cut_eq_unterminated h
  have hfirst : text[first]? = some opening := (hm.opensAt_iff first).mp hopens
  refine ⟨⟨hfirst, ?_⟩, ?_⟩
  · intro i hi
    by_contra hbehind
    obtain rfl | hlt := Nat.eq_or_lt_of_le (not_lt.mp hbehind)
    · rw [hfirst] at hi
      exact hm.ne (Option.some.inj hi)
    · exact hnoClose i hlt ((hm.closesAt_iff i).mpr hi)
  · rintro j hlt ⟨hj, _⟩
    exact hnoOpen j hlt ((hm.opensAt_iff j).mpr hj)

/-- A scan of the rest of a template reports the place of the first unclosed mark in the template. -/
theorem unterminated_scanFrom_eq_some_iff (hm : g.HasMarks opening closing) {total : Nat}
    (htotal : text.length ≤ total) (offset : Nat) :
    (g.scanFrom total text).unterminated = some offset ↔
      ∃ k, offset = total - text.length + k ∧ IsFirstUnclosed opening closing text k := by
  fun_induction scanFrom g total text with
  | case1 =>
      constructor
      · intro hreport
        cases hreport
      · rintro ⟨k, _, ⟨hk, _⟩, _⟩
        cases hk
  | case2 text hne hcut =>
      constructor
      · intro hreport
        cases hreport
      · rintro ⟨k, _, ⟨hk, _⟩, _⟩
        exact absurd ((hm.opensAt_iff k).mpr hk) (cut_eq_plain hcut k)
  | case3 text hne first hcut =>
      have hfirst := isFirstUnclosed_of_cut hm hcut
      rw [Option.some.injEq]
      constructor
      · rintro rfl
        exact ⟨first, rfl, hfirst⟩
      · rintro ⟨k, rfl, hk⟩
        rw [hfirst.unique hk]
  | case4 text hne literal body rest hcut later ih =>
      obtain ⟨first, s, e, htoken, _, _, rfl⟩ := cut_eq_token hm.opening_ne_nil hcut
      have he : text[e]? = some closing := (hm.closesAt_iff e).mp htoken.closes
      have hlength : e < text.length := (List.getElem?_eq_some_iff.mp he).1
      rw [List.length_drop] at ih
      change later.unterminated = some offset ↔ _
      rw [ih (by omega)]
      constructor
      · rintro ⟨j, rfl, hj⟩
        exact ⟨e + 1 + j, by omega, (isFirstUnclosed_iff_drop he _).mpr ⟨j, rfl, hj⟩⟩
      · rintro ⟨k, rfl, hk⟩
        obtain ⟨j, rfl, hj⟩ := (isFirstUnclosed_iff_drop he k).mp hk
        exact ⟨j, by omega, hj⟩

/-- A scan reports the first unclosed mark of a template, and nothing if there is none. -/
theorem unterminated_scan_eq_some_iff (hm : g.HasMarks opening closing) (template : String) (offset : Nat) :
    (g.scan template).unterminated = some offset ↔
      IsFirstUnclosed opening closing template.toList offset := by
  rw [scan, unterminated_scanFrom_eq_some_iff hm (le_of_eq String.length_toList), String.length_toList, Nat.sub_self]
  constructor
  · rintro ⟨k, rfl, hk⟩
    rwa [Nat.zero_add]
  · intro h
    exact ⟨offset, (Nat.zero_add offset).symm, h⟩

/-! ## The warnings of reading -/

/-- Classifying pieces warns of nothing. -/
theorem warnings_classifyAll (g : Grammar) (pieces : List Piece) (voice : Voice) :
    (g.classifyAll pieces).warnings voice = [] := by
  induction pieces with
  | nil => rfl
  | cons piece pieces ih =>
      cases piece with
      | literal text => exact Noted.warnings_bind_eq_nil ih fun _ => rfl
      | token body =>
          refine Noted.warnings_bind_eq_nil ?_ fun _ => Noted.warnings_bind_eq_nil ih fun _ => rfl
          unfold classify
          cases g.readToken body with
          | segment segment => rfl
          | blank => rfl
          | noPath => exact Noted.warnings_bind_eq_nil (Noted.warnings_note_of_debug rfl voice) fun _ => rfl

/-- Reading a template warns of what the scan reports. -/
theorem warnings_parse (g : Grammar) (template : Option String) {voice : Voice} (hvoice : voice.uncomplaining = false) :
    (g.parse template).warnings voice =
      ((g.scan (template.getD "")).unterminated.map Note.unterminated).toList := by
  have hnothing : (g.scan "").unterminated = none := by
    simp [scan, scanFrom]
  cases template with
  | none =>
      rw [Option.getD_none, hnothing]
      rfl
  | some template =>
      rw [Option.getD_some]
      by_cases hempty : template = ""
      · subst hempty
        rw [hnothing]
        rfl
      · simp only [parse, hempty, if_false]
        rw [Noted.warnings_bind_of_ok (result_classifyAll g _ voice), warnings_classifyAll, List.nil_append]
        have hparsed (n m : Nat) (segments : List Segment) :
            (do Noted.note (.parsed n m); return segments : Noted (List Segment)).warnings voice = [] :=
          Noted.warnings_bind_eq_nil (Noted.warnings_note_of_debug rfl voice) fun _ => rfl
        cases (g.scan template).unterminated with
        | none => exact hparsed _ _ _
        | some offset =>
            dsimp only
            rw [Noted.warnings_note_bind hvoice rfl, hparsed]
            rfl

/-- For every grammar that was made from two marks and a keyword, every template, and every voice that complains: a warning
is uttered when the template is read exactly if it has an opening mark behind all of its closing marks. Then there is just
one, and it names the place of the first such mark, which is the number of characters in front of it. -/
theorem parse_warns_of_first_unclosed {o c keyword : String} {g : Grammar}
    (accepted : Grammar.make o c keyword = .ok g) (template : Option String) {voice : Voice}
    (hvoice : voice.uncomplaining = false) :
    ∃ opening closing : Char, o = String.singleton opening ∧ c = String.singleton closing ∧
      let text := (template.getD "").toList
      let warnings := (g.parse template).warnings voice
      (warnings ≠ [] ↔ ∃ k, IsUnclosed opening closing text k) ∧
        (warnings ≠ [] → ∃ k, IsFirstUnclosed opening closing text k ∧ warnings = [.unterminated k] ∧
          warnings.map Note.text = ["Unterminated token at offset " ++ toString k ++ ", kept as text"]) := by
  obtain ⟨opening, closing, ho, hc, hm, _⟩ := make_eq_ok accepted
  refine ⟨opening, closing, ho, hc, ?_⟩
  intro text warnings
  have hwarnings : warnings = ((g.scan (template.getD "")).unterminated.map Note.unterminated).toList :=
    warnings_parse g template hvoice
  have hreport := unterminated_scan_eq_some_iff hm (template.getD "")
  cases hscan : (g.scan (template.getD "")).unterminated with
  | none =>
      have hnone : warnings = [] := by
        rw [hwarnings, hscan]
        rfl
      refine ⟨iff_of_false (not_not.mpr hnone) ?_, fun hsome => absurd hnone hsome⟩
      rintro ⟨k, hk⟩
      obtain ⟨first, hfirst⟩ := hk.exists_first
      have hfound := (hreport first).mpr hfirst
      rw [hscan] at hfound
      cases hfound
  | some offset =>
      have hfirst : IsFirstUnclosed opening closing text offset := (hreport offset).mp hscan
      have hone : warnings = [.unterminated offset] := by
        rw [hwarnings, hscan]
        rfl
      have hne : warnings ≠ [] := by
        rw [hone]
        exact List.cons_ne_nil _ _
      refine ⟨iff_of_true hne ⟨offset, hfirst.1⟩, fun _ => ⟨offset, hfirst, hone, ?_⟩⟩
      rw [hone]
      rfl

/-- A stray closing mark, a token that opens twice, a blank token, and two opening marks that are never closed. -/
theorem parse_warns_of_first_unclosed_of_two :
    let g : Grammar := ⟨['['], [']'], ['w', 'i', 't', 'h'], ['/', 'w', 'i', 't', 'h']⟩
    Grammar.make "[" "]" "with" = .ok g ∧ ({} : Voice).uncomplaining = false ∧
      (g.parse (some "]a[b[c][ ]d[e[f")).warnings {} = [.unterminated 11] := by
  intro g
  have accepted : Grammar.make "[" "]" "with" = .ok g := by
    decide
  have hvoice : ({} : Voice).uncomplaining = false := rfl
  refine ⟨accepted, hvoice, ?_⟩
  obtain ⟨opening, closing, ho, hc, hiff, hfirst⟩ :=
    parse_warns_of_first_unclosed accepted (some "]a[b[c][ ]d[e[f") hvoice
  have hopening : '[' = opening := (String.singleton_inj (c := '[')).mp ho
  have hclosing : ']' = closing := (String.singleton_inj (c := ']')).mp hc
  subst hopening hclosing
  have hunclosed : IsFirstUnclosed '[' ']' "]a[b[c][ ]d[e[f".toList 11 := by
    decide
  obtain ⟨k, hk, hwarnings, -⟩ := hfirst (hiff.mpr ⟨11, hunclosed.1⟩)
  rw [hwarnings, hk.unique hunclosed]

end Grammar

end Stencil
